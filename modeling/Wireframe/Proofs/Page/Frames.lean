import Wireframe.Page.Basic

namespace Wireframe.Page

/-- The frames of other numbers. -/
def others (id : Option Nat) (frames : List Node) : List Node :=
  frames.filter fun frame => some frame.id ≠ id

def only (id : Nat) (frames : List Node) : List Node := frames.filter fun frame => frame.id = id

theorem only_append (id : Nat) (front back : List Node) :
    only id (front ++ back) = only id front ++ only id back :=
  List.filter_append front back

theorem only_others {id : Nat} {other : Option Nat} (apart : other ≠ some id) (frames : List Node) :
    only id (others other frames) = only id frames := by
  unfold only others
  rw [List.filter_filter]
  apply List.filter_congr
  intro frame _
  by_cases same : frame.id = id
  · simp [same, apart.symm]
  · simp [same]

/-- At most one frame of that number is gone. -/
def DropsAtMost (id : Option Nat) (before after : List Node) : Prop :=
  after = before ∨
    ∃ front frame back, before = front ++ frame :: back ∧ some frame.id = id ∧ after = front ++ back

theorem DropsAtMost.others {id : Option Nat} {before after : List Node}
    (drops : DropsAtMost id before after) : Page.others id after = Page.others id before := by
  rcases drops with rfl | ⟨front, frame, back, rfl, same, rfl⟩
  · rfl
  · simp [Page.others, same]

theorem DropsAtMost.mem {id : Option Nat} {before after : List Node} {node : Node}
    (drops : DropsAtMost id before after) (present : node ∈ after) : node ∈ before := by
  rcases drops with rfl | ⟨front, frame, back, rfl, _, rfl⟩
  · exact present
  · rw [List.mem_append, List.mem_cons]
    rcases List.mem_append.mp present with early | late
    · exact Or.inl early
    · exact Or.inr (Or.inr late)

theorem DropsAtMost.number {id : Option Nat} {before after : List Node} {node : Node}
    (drops : DropsAtMost id before after) (present : node ∈ before)
    (left : node.id ∉ after.map Node.id) : some node.id = id := by
  rcases drops with rfl | ⟨front, frame, back, rfl, same, rfl⟩
  · exact absurd (List.mem_map_of_mem present) left
  · rw [List.mem_append, List.mem_cons] at present
    rcases present with early | rfl | late
    · exact absurd (List.mem_map_of_mem (List.mem_append_left back early)) left
    · exact same
    · exact absurd (List.mem_map_of_mem (List.mem_append_right front late)) left

theorem remove_drops (id : Nat) (page : Page) :
    DropsAtMost (some id) page.frames (page.remove id).frames := by
  rcases List.exists_or_eq_self_of_eraseP (fun frame : Node => frame.id = id) page.frames with
    same | ⟨frame, front, back, _, found, split, gone⟩
  · exact Or.inl same
  · exact Or.inr ⟨front, frame, back, split, congrArg some (of_decide_eq_true found), gone⟩

theorem modifyFirst_append {id : Nat} {front : List Node} {frame : Node}
    (apart : ∀ node ∈ front, node.id ≠ id) (same : frame.id = id) (back : List Node)
    (change : Node → Node) :
    modifyFirst (fun frame => frame.id = id) change (front ++ frame :: back) =
      front ++ change frame :: back := by
  induction front with
  | nil => rw [List.nil_append, modifyFirst, if_pos (decide_eq_true same), List.nil_append]
  | cons node rest ih =>
      have other := apart node List.mem_cons_self
      have later := ih fun node early => apart node (List.mem_cons_of_mem _ early)
      rw [List.cons_append, modifyFirst, if_neg (by simpa using other), later, List.cons_append]

/-- A frame that is found is the first of its number, and a change of it changes no other. -/
theorem frame?_split {page : Page} {id : Nat} {frame : Node} (found : page.frame? id = some frame) :
    ∃ front back, page.frames = front ++ frame :: back ∧ frame.id = id ∧
      ∀ change, (page.modify id change).frames = front ++ change frame :: back := by
  obtain ⟨isFrame, front, back, split, before⟩ := List.find?_eq_some_iff_append.mp found
  have same : frame.id = id := of_decide_eq_true isFrame
  have apart : ∀ node ∈ front, node.id ≠ id := by
    intro node early equal
    have differs := before node early
    rw [decide_eq_true equal] at differs
    cases differs
  refine ⟨front, back, split, same, ?_⟩
  intro change
  rw [modify, split]
  exact modifyFirst_append apart same back change

theorem ids_modify (id : Nat) {change : Node → Node} (kept : ∀ node, (change node).id = node.id)
    (page : Page) : (page.modify id change).frames.map Node.id = page.frames.map Node.id := by
  change (modifyFirst _ change page.frames).map Node.id = _
  induction page.frames with
  | nil => rfl
  | cons node rest ih =>
      rw [modifyFirst]
      split
      · rw [List.map_cons, List.map_cons, kept]
      · rw [List.map_cons, List.map_cons, ih]

theorem others_modify (id : Nat) {change : Node → Node} (kept : ∀ node, (change node).id = node.id)
    (page : Page) :
    others (some id) (page.modify id change).frames = others (some id) page.frames := by
  change others (some id) (modifyFirst _ change page.frames) = _
  induction page.frames with
  | nil => rfl
  | cons node rest ih =>
      rw [modifyFirst]
      split
      · have same : node.id = id := of_decide_eq_true ‹_›
        simp [others, kept, same]
      · unfold others at ih ⊢
        rw [List.filter_cons, List.filter_cons, ih]

/-- No frame has a number that is still to come. -/
def Bounded (page : Page) : Prop := ∀ id ∈ page.frames.map Node.id, id ≤ page.lastId

namespace Bounded

variable {page : Page}

theorem empty (viewport : Viewport) (gap : Float32) : Bounded (.empty viewport gap) := by
  intro id present
  cases present

theorem raise (bounded : page.Bounded) {lastId : Nat} (grown : page.lastId ≤ lastId) :
    Bounded { page with lastId } := by
  intro id present
  exact Nat.le_trans (bounded id present) grown

theorem drop (bounded : page.Bounded) {id : Option Nat} {frames : List Node}
    (drops : DropsAtMost id page.frames frames) : Bounded { page with frames } := by
  intro other present
  obtain ⟨node, left, rfl⟩ := List.mem_map.mp present
  exact bounded node.id (List.mem_map_of_mem (drops.mem left))

theorem remove (bounded : page.Bounded) (id : Nat) : (page.remove id).Bounded :=
  bounded.drop (remove_drops id page)

theorem modify (bounded : page.Bounded) (id : Nat) {change : Node → Node}
    (kept : ∀ node, (change node).id = node.id) : (page.modify id change).Bounded := by
  intro other present
  rw [ids_modify id kept] at present
  exact bounded other present

theorem add (bounded : page.Bounded) (draft : Draft) : (page.add draft).2.Bounded := by
  intro id present
  change id ∈ (page.frames ++ [_]).map Node.id at present
  rw [List.map_append, List.mem_append] at present
  rcases present with old | new
  · exact Nat.le_succ_of_le (bounded id old)
  · simp only [List.map_cons, List.map_nil, List.mem_singleton, Node.id_withPosition,
      Draft.id_node] at new
    exact Nat.le_of_eq new

theorem edit (bounded : page.Bounded) (edit : Edit) : (page.edit edit).Bounded := by
  have fresh := bounded.raise (Nat.le_succ page.lastId)
  cases edit with
  | takeId => exact fresh
  | add draft => exact bounded.add draft
  | appendChild id draft => exact fresh.modify id (Node.id_append _)
  | removeChild id child => exact bounded.modify id (Node.id_removeChild child)
  | remove id => exact bounded.remove id
  | move id position => exact bounded.modify id (Node.id_withPosition position)
  | resize id size => exact bounded.modify id (Node.id_resize size)

end Bounded

theorem lastId_edit (page : Page) (edit : Edit) : page.lastId ≤ (page.edit edit).lastId := by
  cases edit with
  | takeId | add _ | appendChild _ _ => exact Nat.le_succ page.lastId
  | _ => exact Nat.le_refl page.lastId

section

variable {page : Page} {front : List Node} {frame : Node}

theorem frame?_last (split : page.frames = front ++ [frame])
    (apart : ∀ node ∈ front, node.id ≠ frame.id) : page.frame? frame.id = some frame := by
  have others : front.find? (fun node => node.id = frame.id) = none :=
    List.find?_eq_none.mpr fun node early => by simpa using apart node early
  rw [frame?, split, List.find?_append, others, Option.none_or]
  exact List.find?_cons_of_pos (decide_eq_true rfl)

theorem modify_last (split : page.frames = front ++ [frame])
    (apart : ∀ node ∈ front, node.id ≠ frame.id) (change : Node → Node) :
    (page.modify frame.id change).frames = front ++ [change frame] := by
  rw [modify, split]
  exact modifyFirst_append apart rfl [] change

theorem remove_last (split : page.frames = front ++ [frame])
    (apart : ∀ node ∈ front, node.id ≠ frame.id) : (page.remove frame.id).frames = front := by
  change page.frames.eraseP _ = front
  rw [split, List.eraseP_append_right [frame] fun node early => by simpa using apart node early]
  have none : [frame].eraseP (fun node => node.id = frame.id) = [] :=
    List.eraseP_cons_of_pos (decide_eq_true rfl)
  rw [none, List.append_nil]

end

def added (page : Page) (draft : Draft) : Node :=
  let node := draft.node (page.lastId + 1)
  node.withPosition (some (page.nextPosition (node.size?.getD .zero)))

theorem frames_add (page : Page) (draft : Draft) :
    (page.add draft).2.frames = page.frames ++ [page.added draft] := rfl

theorem id_added (page : Page) (draft : Draft) : (page.added draft).id = page.lastId + 1 := by
  rw [added, Node.id_withPosition, Draft.id_node]

/-- A new frame has another number than all before it. -/
theorem Bounded.apart {page : Page} (bounded : page.Bounded) (draft : Draft) :
    ∀ node ∈ page.frames, node.id ≠ (page.added draft).id := by
  intro node present same
  have given := bounded node.id (List.mem_map_of_mem present)
  rw [id_added] at same
  omega

theorem Bounded.found_add {page : Page} (bounded : page.Bounded) (draft : Draft) :
    (page.add draft).2.frame? (page.lastId + 1) = some (page.added draft) := by
  rw [← page.id_added draft]
  exact frame?_last (page.frames_add draft) (bounded.apart draft)

/-- A new frame that is removed again leaves its number behind and nothing else. -/
theorem Bounded.remove_add {page : Page} (bounded : page.Bounded) (draft : Draft) :
    (page.add draft).2.remove (page.lastId + 1) = { page with lastId := page.lastId + 1 } := by
  have frames : ((page.add draft).2.remove (page.lastId + 1)).frames = page.frames := by
    rw [← page.id_added draft]
    exact remove_last (page.frames_add draft) (bounded.apart draft)
  exact congrArg (fun frames => { page with frames, lastId := page.lastId + 1 }) frames

theorem mem_modifyFirst {p : Node → Bool} {change : Node → Node} {node : Node} {frames : List Node}
    (present : node ∈ modifyFirst p change frames) :
    node ∈ frames ∨ ∃ old ∈ frames, p old = true ∧ node = change old := by
  induction frames with
  | nil => cases present
  | cons first rest ih =>
      rw [modifyFirst] at present
      split at present
      · rename_i isFirst
        rcases List.mem_cons.mp present with changed | late
        · exact Or.inr ⟨first, List.mem_cons_self, isFirst, changed⟩
        · exact Or.inl (List.mem_cons_of_mem first late)
      · rcases List.mem_cons.mp present with same | late
        · exact Or.inl (List.mem_cons.mpr (Or.inl same))
        · rcases ih late with kept | ⟨old, early, isOld, changed⟩
          · exact Or.inl (List.mem_cons_of_mem first kept)
          · exact Or.inr ⟨old, List.mem_cons_of_mem first early, isOld, changed⟩

def Each (id : Nat) (p : Node → Prop) (page : Page) : Prop :=
  ∀ node ∈ page.frames, node.id = id → p node

namespace Each

variable {page : Page} {id : Nat} {p q : Node → Prop}

theorem found (each : page.Each id p) {node : Node} (found : page.frame? id = some node) :
    p node := by
  obtain ⟨front, back, split, same, _⟩ := frame?_split found
  apply each node _ same
  rw [split]
  exact List.mem_append_right front List.mem_cons_self

theorem imp (each : page.Each id p) (weaker : ∀ node, p node → q node) : page.Each id q := by
  intro node present same
  exact weaker node (each node present same)

theorem remove (each : page.Each id p) (other : Nat) : (page.remove other).Each id p := by
  intro node present
  exact each node ((remove_drops other page).mem present)

theorem modify (each : page.Each id p) (other : Nat) {change : Node → Node}
    (kept : ∀ node, (change node).id = node.id)
    (keeps : other = id → ∀ node, p node → p (change node)) :
    (page.modify other change).Each id p := by
  intro node present same
  rcases mem_modifyFirst present with old | ⟨old, early, isOther, rfl⟩
  · exact each node old same
  · rw [kept] at same
    have isOther : old.id = other := of_decide_eq_true isOther
    exact keeps (isOther.symm.trans same) old (each old early same)

theorem place (each : page.Each id p) {node : Node} (apart : node.id ≠ id) :
    (page.place node).Each id p := by
  intro frame present same
  rcases List.mem_append.mp present with old | new
  · exact each frame old same
  · rw [List.mem_singleton.mp new, Node.id_withPosition] at same
    exact absurd same apart

theorem add (each : page.Each id p) (given : id ≤ page.lastId) (draft : Draft) :
    (page.add draft).2.Each id p := by
  have each : page.freshId.2.Each id p := each
  apply each.place
  rw [Draft.id_node]
  exact Nat.ne_of_gt (Nat.lt_succ_of_le given)

end Each

end Wireframe.Page
