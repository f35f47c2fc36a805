import Wireframe.Proofs.Font.Chain
/-!
Which installed faces count. A search for a face of a family ends at the nearest one, but only a
face of exactly the weight of a style can be used for it: one of those that are left when the faces
of the family are narrowed to the width nearest to normal, and these to the slant nearest to
upright. The same holds of every search that narrows the faces so and takes the exact weight when it
is left.
-/

namespace Wireframe.Font

variable {database : List Face} {family : String} {face found : Face} {wanted : Nat}

section

variable {β : Type} [DecidableEq β] {feature : Face → β} {order : List β} {faces : List Face}
  (complete : ∀ wanted, wanted ∈ order)
include complete

theorem narrow_eq_filter (some : faces ≠ []) :
    ∃ chosen ∈ faces,
      narrow feature order faces = faces.filter (fun face => feature face = feature chosen) ∧
        ∀ other ∈ faces, order.idxOf (feature chosen) ≤ order.idxOf (feature other) := by
  let shown (wanted : β) : Bool := faces.any fun face => feature face = wanted
  have has {face : Face} (listed : face ∈ faces) : shown (feature face) = true :=
    List.any_eq_true.mpr ⟨face, listed, decide_eq_true rfl⟩
  cases first : order.find? shown with
  | none =>
      obtain ⟨face, listed⟩ := List.exists_mem_of_ne_nil faces some
      exact absurd (has listed) (List.find?_eq_none.mp first _ (complete _))
  | some wanted =>
      have present : shown wanted = true := List.find?_some first
      obtain ⟨chosen, listed, same⟩ := List.any_eq_true.mp present
      obtain rfl : feature chosen = wanted := of_decide_eq_true same
      refine ⟨chosen, listed, ?_, fun other member => idxOf_le_of_find? first (has member)⟩
      unfold narrow
      rw [first]

theorem mem_narrow :
    face ∈ narrow feature order faces ↔
      face ∈ faces ∧
        ∀ other ∈ faces, order.idxOf (feature face) ≤ order.idxOf (feature other) := by
  cases faces with
  | nil =>
      have none : narrow feature order [] = [] := by
        unfold narrow
        split <;> rfl
      simp [none]
  | cons head rest =>
      obtain ⟨chosen, listed, left, least⟩ :=
        narrow_eq_filter complete (List.cons_ne_nil head rest)
      rw [left, List.mem_filter, decide_eq_true_iff]
      refine and_congr_right fun member => ⟨fun same => same ▸ least, fun nearest => ?_⟩
      exact (List.idxOf_inj (complete _)).mp
        (Nat.le_antisymm (nearest chosen listed) (least face member))

theorem narrow_ne_nil (some : faces ≠ []) : narrow feature order faces ≠ [] := by
  obtain ⟨chosen, listed, left, _⟩ := narrow_eq_filter complete some
  rw [left]
  exact List.ne_nil_of_mem (List.mem_filter.mpr ⟨listed, decide_eq_true rfl⟩)

end

theorem Slant.mem_order (slant : Slant) : slant ∈ Slant.order := by
  cases slant <;> decide

theorem Stretch.mem_order (stretch : Stretch) : stretch ∈ Stretch.order := by
  cases stretch <;> decide

/-- A face is left if it is one of the family, if no face of the family has a width that comes
before its own, and none of its width a slant that comes before its own. -/
structure Remains (database : List Face) (family : String) (face : Face) : Prop where
  listed : face ∈ database
  named : family ∈ face.families
  nearest : ∀ other ∈ database, family ∈ other.families →
    Stretch.order.idxOf face.stretch ≤ Stretch.order.idxOf other.stretch
  straightest : ∀ other ∈ database, family ∈ other.families → other.stretch = face.stretch →
    Slant.order.idxOf face.slant ≤ Slant.order.idxOf other.slant

theorem mem_matching : face ∈ matching database family ↔ Remains database family face := by
  simp only [matching, mem_narrow Slant.mem_order, mem_narrow Stretch.mem_order, List.mem_filter,
    List.contains_iff_mem]
  constructor
  · rintro ⟨⟨⟨listed, named⟩, nearest⟩, straightest⟩
    refine ⟨listed, named, fun other shown names => nearest other ⟨shown, names⟩, ?_⟩
    intro other shown names same
    exact straightest other ⟨⟨shown, names⟩, same ▸ nearest⟩
  · rintro ⟨listed, named, nearest, straightest⟩
    refine ⟨⟨⟨listed, named⟩, fun other ⟨shown, names⟩ => nearest other shown names⟩, ?_⟩
    rintro other ⟨⟨shown, names⟩, least⟩
    have same : other.stretch = face.stretch :=
      (List.idxOf_inj (Stretch.mem_order _)).mp
        (Nat.le_antisymm (least face ⟨listed, named⟩) (nearest other shown names))
    exact straightest other shown names same

theorem matching_ne_nil (listed : face ∈ database) (named : family ∈ face.families) :
    matching database family ≠ [] := by
  apply narrow_ne_nil Slant.mem_order
  apply narrow_ne_nil Stretch.mem_order
  exact List.ne_nil_of_mem (List.mem_filter.mpr ⟨listed, List.contains_iff_mem.mpr named⟩)

theorem exists_or_eq_some {weights : List Nat} {one other : Option Nat}
    (some : one = none → other ≠ none)
    (listed : ∀ weight, one = .some weight ∨ other = .some weight → weight ∈ weights) :
    ∃ settled ∈ weights, one.or other = .some settled := by
  cases one with
  | some weight => exact ⟨weight, listed weight (.inl rfl), rfl⟩
  | none =>
      obtain ⟨weight, found⟩ := Option.ne_none_iff_exists'.mp (some rfl)
      exact ⟨weight, listed weight (.inr found), found⟩

theorem settle_exact {weights : List Nat} (present : wanted ∈ weights) :
    settle wanted weights = some wanted :=
  if_pos (List.contains_iff_mem.mpr present)

theorem exists_settle {weights : List Nat} (some : weights ≠ []) (wanted : Nat) :
    ∃ settled ∈ weights, settle wanted weights = .some settled := by
  let lighter := (weights.filter (· ≤ wanted)).max?
  let heavier := (weights.filter (wanted ≤ ·)).min?
  have listed (weight : Nat) (found : lighter = .some weight ∨ heavier = .some weight) :
      weight ∈ weights := by
    rcases found with greatest | least
    · exact List.mem_of_mem_filter (List.max?_mem greatest)
    · exact List.mem_of_mem_filter (List.min?_mem least)
  -- Every weight is on one of the two sides, so they are not both without one.
  have either (light : lighter = none) : heavier ≠ none := by
    intro heavy
    obtain ⟨weight, member⟩ := List.exists_mem_of_ne_nil weights some
    have above := List.filter_eq_nil_iff.mp (List.max?_eq_none_iff.mp light) weight member
    have below := List.filter_eq_nil_iff.mp (List.min?_eq_none_iff.mp heavy) weight member
    simp only [decide_eq_true_eq] at above below
    omega
  unfold settle
  split
  · rename_i exact
    exact ⟨wanted, List.contains_iff_mem.mp exact, rfl⟩
  split
  · rename_i medium
    exact ⟨500, List.contains_iff_mem.mp medium.2.2, rfl⟩
  split
  · rename_i regular
    exact ⟨400, List.contains_iff_mem.mp regular.2.2, rfl⟩
  split
  · exact exists_or_eq_some either listed
  · exact exists_or_eq_some (fun heavy light => either light heavy)
      fun weight found => listed weight found.symm

/-- A search that follows the rules for fonts of style sheets: it ends at a face if any is of the
family, at one that remains, and at one of exactly the wanted weight if such a one remains. -/
structure Follows (search : List Face → String → Nat → Option Face) : Prop where
  ends : ∀ {database family face} (wanted : Nat), face ∈ database → family ∈ face.families →
    ∃ found, search database family wanted = some found
  remains : ∀ {database family wanted found}, search database family wanted = some found →
    Remains database family found
  exact : ∀ {database family wanted found face}, search database family wanted = some found →
    Remains database family face → face.weight = wanted → found.weight = wanted

theorem remains_of_query (ended : query database family wanted = some found) :
    Remains database family found := by
  obtain ⟨settled, _, first⟩ := Option.bind_eq_some_iff.mp ended
  exact mem_matching.mp (List.mem_of_find?_eq_some first)

theorem exists_query (listed : face ∈ database) (named : family ∈ face.families) (wanted : Nat) :
    ∃ found, query database family wanted = some found ∧
      ∀ other, Remains database family other → other.weight = wanted → found.weight = wanted := by
  have left : (matching database family).map Face.weight ≠ [] := by
    rw [Ne, List.map_eq_nil_iff]
    exact matching_ne_nil listed named
  obtain ⟨settled, present, settles⟩ := exists_settle left wanted
  obtain ⟨chosen, member, weighs⟩ := List.mem_map.mp present
  have some : ((matching database family).find? fun face => face.weight = settled).isSome :=
    List.find?_isSome.mpr ⟨chosen, member, decide_eq_true weighs⟩
  obtain ⟨found, first⟩ := Option.isSome_iff_exists.mp some
  refine ⟨found, Option.bind_eq_some_iff.mpr ⟨settled, settles, first⟩, ?_⟩
  intro other remains same
  have weighs : found.weight = settled := by simpa using List.find?_some first
  have exact : settle wanted _ = Option.some wanted :=
    settle_exact (List.mem_map.mpr ⟨other, mem_matching.mpr remains, same⟩)
  exact weighs.trans (Option.some.inj (settles.symm.trans exact))

theorem query_follows : Follows query where
  ends wanted listed named := by
    obtain ⟨found, ended, _⟩ := exists_query listed named wanted
    exact ⟨found, ended⟩
  remains := remains_of_query
  exact := by
    intro database family wanted found face ended remains weighs
    obtain ⟨other, same, exact⟩ := exists_query remains.listed remains.named wanted
    cases ended.symm.trans same
    exact exact face remains weighs

/-- A style can be used if and only if a face of exactly its weight remains. -/
theorem Follows.available_iff {search : List Face → String → Nat → Option Face}
    (follows : Follows search) (style : FontStyle) :
    ofSearch search database ⟨family, style⟩ = true ↔
      ∃ face, Remains database family face ∧ face.weight = weight style := by
  rw [ofSearch, Option.any_eq_true]
  simp only [decide_eq_true_eq]
  constructor
  · rintro ⟨found, ended, weighs⟩
    exact ⟨found, follows.remains ended, weighs⟩
  · rintro ⟨face, remains, weighs⟩
    obtain ⟨found, ended⟩ := follows.ends (weight style) remains.listed remains.named
    exact ⟨found, ended, follows.exact ended remains weighs⟩

theorem Remains.congr {other : List Face} (remains : Remains database family face)
    (same : ∀ face : Face, family ∈ face.families → (face ∈ other ↔ face ∈ database)) :
    Remains other family face where
  listed := (same face remains.named).mpr remains.listed
  named := remains.named
  nearest := fun face shown named => remains.nearest face ((same face named).mp shown) named
  straightest := fun face shown named =>
    remains.straightest face ((same face named).mp shown) named

theorem remains_of_normal (listed : face ∈ database) (named : family ∈ face.families)
    (width : face.stretch = .normal) (slant : face.slant = .normal) :
    Remains database family face where
  listed := listed
  named := named
  nearest := by
    intro other _ _
    rw [width]
    exact Nat.zero_le _
  straightest := by
    intro other _ _ _
    rw [slant]
    exact Nat.zero_le _

/-- A style of a family can be used if and only if a face of exactly its weight remains, so that an
upright face of normal width and of this weight is enough. If none remains that has it, the face at
which a search ends in its place does not count. Faces of other families do not count either, and
neither does which search is made, as long as it follows the rules. -/
theorem database_exact (database : List Face) (family : String) (style : FontStyle) :
    (ofDatabase database ⟨family, style⟩ = true ↔
      ∃ face, Remains database family face ∧ face.weight = weight style) ∧
    (∀ face ∈ database, family ∈ face.families → face.stretch = .normal → face.slant = .normal →
      face.weight = weight style → ofDatabase database ⟨family, style⟩ = true) ∧
    ((∀ face, Remains database family face → face.weight ≠ weight style) →
      ofDatabase database ⟨family, style⟩ = false ∧
        ∀ face ∈ database, family ∈ face.families →
          ∃ found, query database family (weight style) = some found ∧
            found.weight ≠ weight style) ∧
    (∀ other : List Face,
      (∀ face : Face, family ∈ face.families → (face ∈ other ↔ face ∈ database)) →
        ofDatabase other ⟨family, style⟩ = ofDatabase database ⟨family, style⟩) ∧
    ∀ search, Follows search →
      ofSearch search database ⟨family, style⟩ = ofDatabase database ⟨family, style⟩ := by
  have available (database : List Face) : ofDatabase database ⟨family, style⟩ = true ↔
      ∃ face, Remains database family face ∧ face.weight = weight style :=
    query_follows.available_iff style
  refine ⟨available database, ?_, ?_, ?_, ?_⟩
  · intro face listed named width slant weighs
    exact (available database).mpr ⟨face, remains_of_normal listed named width slant, weighs⟩
  · intro none
    refine ⟨?_, fun face listed named => ?_⟩
    · rw [← Bool.not_eq_true]
      intro usable
      obtain ⟨face, remains, weighs⟩ := (available database).mp usable
      exact none face remains weighs
    · obtain ⟨found, ended⟩ := query_follows.ends (weight style) listed named
      exact ⟨found, ended, none found (query_follows.remains ended)⟩
  · intro other same
    rw [Bool.eq_iff_iff]
    refine (available other).trans (Iff.trans ?_ (available database).symm)
    refine exists_congr fun face => and_congr_left fun _ => ⟨fun remains => ?_, fun remains => ?_⟩
    · exact remains.congr fun face named => (same face named).symm
    · exact remains.congr same
  · intro search follows
    rw [Bool.eq_iff_iff]
    exact (follows.available_iff style).trans (available database).symm

/-- A family that has its bold face in italics alone and its medium face in a narrow width alone. -/
example :
    let face (weight : Nat) (slant : Slant) (stretch : Stretch) : Face :=
      ⟨["Inter"], weight, slant, stretch⟩
    let database :=
      [face 400 .normal .normal, face 700 .italic .normal, face 500 .normal .condensed]
    styles.map (fun style => ofDatabase database ⟨"Inter", style⟩) = [true, false, false] := by
  decide

end Wireframe.Font
