import Wireframe.Catalog.Builtin
import Wireframe.Proofs.Json.Distinct
import Wireframe.Proofs.Render.Alike

namespace Wireframe

def Json.withItems (items : List Json) : Json → Json
  | .array _ => .array items
  | value => value

namespace Entry

/-- Whether a prop of an entry counts: it is not null, and known to the kind of the entry or the
list of what lies below an entry that nests others. -/
def keeps (entry : Entry) : String × Json → Bool
  | (_, .null) => false
  | (name, _) => (Kind.ofTag? entry.tag).any fun kind =>
      (kind.props.lookup name).isSome || kind.nests && name == "children"

def pruned (entry : Entry) (below : List Json) : Entry where
  tag := entry.tag
  props := (entry.props.filter entry.keeps).map fun (name, value) =>
    (name, if name = "children" then value.withItems below else value)

def toJson (entry : Entry) : Json :=
  .object [("component", .string entry.tag), ("props", .object entry.props)]

@[simp] theorem ofJson?_toJson (entry : Entry) : ofJson? entry.toJson = some entry := rfl

end Entry

/-- Values with nothing but what counts in every entry. What is no entry stays as it is. -/
def Json.pruned (values : List Json) : List Json :=
  match values with
  | [] => []
  | value :: rest =>
      match valid : Entry.ofJson? value with
      | none => value :: pruned rest
      | some read =>
          have := Entry.sizeOf_children_lt valid
          (read.pruned (pruned read.children)).toJson :: pruned rest
termination_by sizeOf values
decreasing_by
  all_goals
    simp only [List.cons.sizeOf_spec]
    omega

namespace Props

variable {props : List (String × Json)} {name : String}

/-- Where each name is there once, looking for one among the members that are kept is to look for it
among all and to see whether it is kept. -/
theorem lookup_filter (distinct : (props.map Prod.fst).Nodup) (keep : String × Json → Bool)
    (name : String) :
    (props.filter keep).lookup name =
      (props.lookup name).filter fun value => keep (name, value) := by
  induction props with
  | nil => rfl
  | cons member rest ih =>
      obtain ⟨other, value⟩ := member
      obtain ⟨fresh, distinctRest⟩ := List.nodup_cons.mp distinct
      have later := ih distinctRest
      by_cases same : name = other
      · subst same
        by_cases kept : keep (name, value) = true
        · rw [List.filter_cons_of_pos kept, List.lookup_cons_self, List.lookup_cons_self,
            Option.filter_some, if_pos kept]
        · -- No later member of that name comes to light when this one is dropped.
          have absent : rest.lookup name = none := by
            rw [List.lookup_eq_none_iff]
            intro member inside
            rw [bne_iff_ne]
            intro same
            exact fresh (List.mem_map.mpr ⟨member, inside, same.symm⟩)
          rw [List.filter_cons_of_neg kept, later, absent, List.lookup_cons_self,
            Option.filter_some, if_neg kept, Option.filter_none]
      · have differs : (name == other) = false := beq_false_of_ne same
        rw [List.lookup_cons, differs]
        by_cases kept : keep (other, value) = true
        · rw [List.filter_cons_of_pos kept, List.lookup_cons, differs]
          exact later
        · rw [List.filter_cons_of_neg kept]
          exact later

theorem lookup_map (change : String → Json → Json) :
    (props.map fun (name, value) => (name, change name value)).lookup name =
      (props.lookup name).map (change name) := by
  induction props with
  | nil => rfl
  | cons member rest ih =>
      obtain ⟨other, value⟩ := member
      rw [List.map_cons, List.lookup_cons, List.lookup_cons]
      by_cases same : name = other
      · subst same
        rw [beq_self_eq_true]
        rfl
      · rw [beq_false_of_ne same]
        exact ih

theorem Agree.filter (distinct : (props.map Prod.fst).Nodup) {keep : String × Json → Bool}
    (keeps : ∀ value, keep (name, value) = false → value = .null) :
    Agree props (props.filter keep) name := by
  have found := lookup_filter distinct keep name
  cases given : props.lookup name with
  | none =>
      apply Agree.of_lookup
      rw [found, given, Option.filter_none]
  | some value =>
      rw [given, Option.filter_some] at found
      by_cases kept : keep (name, value) = true
      · apply Agree.of_lookup
        rw [found, given, if_pos kept]
      · cases keeps value (Bool.eq_false_iff.mpr kept)
        rw [if_neg kept] at found
        constructor
        · rw [string?, string?, found, given]
        · rw [number?, number?, found, given]
        · rw [boolean?, boolean?, found, given]

end Props

namespace Entry

variable {read : Entry} {below : List Json}

theorem keeps_known {kind : Kind} {name : String} {value : Json}
    (named : Kind.ofTag? read.tag = some kind) (known : (kind.props.lookup name).isSome = true)
    (dropped : read.keeps (name, value) = false) : value = .null := by
  cases value with
  | null => rfl
  | _ => simp [keeps, named, known] at dropped

theorem own_pruned : (read.pruned below).own = read.own.filter read.keeps := by
  let change : String × Json → String × Json := fun (name, value) =>
    (name, if name = "children" then value.withItems below else value)
  let other : String × Json → Bool := fun member => member.1 ≠ "children"
  have unchanged : ∀ member ∈ (read.props.filter read.keeps).filter other,
      change member = member := by
    intro member inside
    have named : member.1 ≠ "children" := by simpa [other] using (List.mem_filter.mp inside).2
    simp [change, named]
  calc ((read.props.filter read.keeps).map change).filter other
    _ = ((read.props.filter read.keeps).filter other).map change := List.filter_map
    _ = (read.props.filter read.keeps).filter other := by
      rw [List.map_congr_left unchanged, List.map_id']
    _ = (read.props.filter other).filter read.keeps := List.filter_comm _ _ _

theorem distinct_own (distinct : (read.props.map Prod.fst).Nodup) :
    (read.own.map Prod.fst).Nodup :=
  distinct.sublist (List.filter_sublist.map Prod.fst)

theorem ofEntry_pruned (distinct : (read.props.map Prod.fst).Nodup) (below : List Json) :
    Component.ofEntry (read.pruned below) = Component.ofEntry read := by
  have same : Component.ofEntry ⟨read.tag, read.own.filter read.keeps⟩ =
      Component.ofEntry ⟨read.tag, read.own⟩ := by
    apply Component.ofEntry_congr
    intro kind named
    have known (name : String) (listed : name ∈ kind.props.map Prod.fst) :
        (kind.props.lookup name).isSome = true := by
      obtain ⟨entry, inside, same⟩ := List.mem_map.mp listed
      rw [List.lookup_isSome_iff]
      exact ⟨entry, inside, by simp [same]⟩
    constructor
    · apply Props.fault?_filter
      intro member _ dropped
      cases found : kind.props.lookup member.1 with
      | none => exact Or.inl rfl
      | some type => exact Or.inr (keeps_known named (by simp [found]) dropped)
    · apply Props.ofProps_congr
      intro name listed
      exact .filter (distinct_own distinct) fun value dropped =>
        keeps_known named (known name listed) dropped
  rw [← Component.ofEntry_own (read.pruned below), own_pruned, ← Component.ofEntry_own read]
  exact same

/-- Below an entry that nests others there is what was put there. -/
theorem children_pruned (distinct : (read.props.map Prod.fst).Nodup) (nests : read.nests = true)
    (bare : read.children = [] → below = []) : (read.pruned below).children = below := by
  have found : (read.pruned below).props.lookup "children" =
      ((read.props.lookup "children").filter fun value => read.keeps ("children", value)).map
        (Json.withItems below) := by
    rw [← Props.lookup_filter distinct]
    exact Props.lookup_map fun name value =>
      if name = "children" then value.withItems below else value
  unfold children
  unfold children at bare
  rw [found]
  cases listed : read.props.lookup "children" with
  | none =>
      rw [listed] at bare
      exact (bare rfl).symm
  | some value =>
      rw [listed] at bare
      cases value with
      | array items =>
          have kept : read.keeps ("children", .array items) = true := by
            obtain ⟨kind, named, nesting⟩ := (Option.any_eq_true _ _).mp nests
            simp [keeps, named, nesting]
          rw [Option.filter_some, if_pos kept]
          rfl
      | _ =>
          rw [Option.filter_some]
          split
          · exact (bare rfl).symm
          · exact (bare rfl).symm

theorem distinct_of_valid {value : Json} (valid : ofJson? value = some read)
    (distinct : value.isDistinct = true) :
    (read.props.map Prod.fst).Nodup ∧ ∀ child ∈ read.children, child.isDistinct = true := by
  obtain ⟨members, rfl, _, hasProps⟩ := ofJson?_eq_some_iff.mp valid
  have inside {entries : List (String × Json)} {name : String} {found : Json}
      (listed : entries.lookup name = some found) : (name, found) ∈ entries := by
    obtain ⟨before, after, rfl, _⟩ := List.lookup_eq_some_iff.mp listed
    simp
  obtain ⟨_, held⟩ := Json.isDistinct_object_iff.mp distinct
  obtain ⟨once, below⟩ := Json.isDistinct_object_iff.mp (held _ (inside hasProps))
  refine ⟨once, ?_⟩
  intro child member
  unfold children at member
  cases listed : read.props.lookup "children" with
  | none =>
      rw [listed] at member
      cases member
  | some value =>
      rw [listed] at member
      have distinctValue := below _ (inside listed)
      cases value with
      | array items => exact Json.areDistinct_iff.mp distinctValue child member
      | _ => cases member

end Entry

namespace Json

@[simp] theorem pruned_nil : pruned [] = [] := by rw [pruned]

theorem pruned_cons (value : Json) (rest : List Json) :
    pruned (value :: rest) =
      (match Entry.ofJson? value with
        | none => value
        | some read => (read.pruned (pruned read.children)).toJson) :: pruned rest := by
  rw [pruned]
  split
  · rename_i invalid
    simp only [invalid]
  · rename_i valid
    simp only [valid]

theorem pruned_alike {values : List Json} (distinct : ∀ value ∈ values, value.isDistinct = true) :
    List.Forall₂
      (Alike fun read other => other.tag = read.tag ∧
        Component.ofEntry other = Component.ofEntry read)
      (pruned values) values := by
  fun_induction pruned values with
  | case1 => exact .nil
  | case2 value rest invalid ih =>
      obtain ⟨first, others⟩ := List.forall_mem_cons.mp distinct
      exact .cons (.invalid invalid invalid) (ih others)
  | case3 value rest read valid _ below ih =>
      obtain ⟨first, others⟩ := List.forall_mem_cons.mp distinct
      obtain ⟨once, inner⟩ := Entry.distinct_of_valid valid first
      refine .cons (.entry (Entry.ofJson?_toJson _) valid ⟨rfl, ?_⟩ ?_) (ih others)
      · exact (Entry.ofEntry_pruned once _).symm
      · intro nests
        have bare : read.children = [] → pruned read.children = [] := by
          intro bare
          rw [bare, pruned_nil]
        rw [Entry.children_pruned once nests bare]
        exact below inner

theorem Proper.pruned_alike (values : List Proper) :
    List.Forall₂
      (Alike fun read other => other.tag = read.tag ∧
        Component.ofEntry other = Component.ofEntry read)
      (pruned (values.map value)) (values.map value) := by
  apply Json.pruned_alike
  intro value member
  obtain ⟨proper, _, rfl⟩ := List.mem_map.mp member
  exact proper.distinct

end Json

namespace Render

theorem Same.of_ofEntry {env : Environment} {read other : Entry}
    (same : other.tag = read.tag ∧ Component.ofEntry other = Component.ofEntry read) :
    Same env env read other := by
  apply Same.of_reads env.catalog same.1
  intro below
  rw [same.2]

end Render

namespace Renderer

/-- Only tags and known props that are not null matter. If a list is pruned to those, at every
depth, then its nodes, their numbers and the record are what they were, messages of errors
included. -/
theorem tree_pruned (env : Environment) (values : List Json.Proper) (renderer : Renderer) :
    renderer.tree env (.array (Json.pruned (values.map Json.Proper.value))) =
      renderer.tree env (.array (values.map Json.Proper.value)) :=
  tree_alike (fun _ _ => Render.Same.of_ofEntry) (Json.Proper.pruned_alike values) renderer

/-- A row with a text for its spacing, among other things, and a button in it. -/
theorem tree_pruned_row :
    let env : Environment :=
      ⟨.standard, .builtin, Font.ofFaces (Font.family "Inter"), .library⟩
    let button (props : List (String × Json)) : Json :=
      .object [("component", .string "Button"), ("props", .object props)]
    let values : List Json :=
      [.object [("component", .string "Row"), ("note", .bool true),
        ("props", .object [
          ("children", .array [button [("color", .null), ("label", .string "Go"),
            ("size", .int 3)], .null]),
          ("fit", .string "fill"), ("spacing", .string "wide")])]]
    let kept : List Json :=
      [.object [("component", .string "Row"),
        ("props", .object [("children", .array [button [("label", .string "Go")], .null]),
          ("spacing", .string "wide")])]]
    Json.isDistinct (.array values) = true ∧ Json.pruned values = kept ∧
      (fresh 0).tree env (.array kept) = (fresh 0).tree env (.array values) := by
  intro env button values kept
  have distinct : Json.isDistinct (.array values) = true := by decide
  have same : Json.pruned values = kept := by
    simp [values, kept, button, Json.pruned_cons, List.lookup_cons, Entry.ofJson?, Json.member?,
      Json.string?, Json.object?, Entry.children, Json.array?, Entry.pruned, Entry.keeps,
      Entry.toJson, Json.withItems, Kind.ofTag?, Kind.all, Kind.tag, Kind.props, Kind.nests,
      Json.int]
  refine ⟨distinct, same, ?_⟩
  have pruned := tree_pruned env (Json.Proper.items ⟨.array values, distinct⟩) (fresh 0)
  rw [Json.Proper.values_items distinct, same] at pruned
  exact pruned

/-- A list that is read from a text has each name once, so it may be pruned. -/
theorem tree_ofText_pruned (env : Environment) {text : String} {values : List Json}
    (reads : Json.ofText text = .ok (.array values)) (renderer : Renderer) :
    renderer.tree env (.array (Json.pruned values)) = renderer.tree env (.array values) := by
  have items := Json.Proper.values_items (Json.Proper.ofText reads).distinct
  have alike := Json.Proper.pruned_alike (Json.Proper.ofText reads).items
  rw [Json.Proper.ofText, items] at alike
  exact tree_alike (fun _ _ => Render.Same.of_ofEntry) alike renderer

end Renderer

end Wireframe
