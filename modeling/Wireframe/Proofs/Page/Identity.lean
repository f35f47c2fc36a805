import Mathlib.Data.List.Nodup
import Mathlib.Data.List.Perm.Subperm
import Mathlib.Tactic.Tauto
import Wireframe.Proofs.Page.Frames
import Wireframe.Proofs.Render.Making
/-!
The numbers on a page. Whatever is done to it, the numbers of all its nodes at any depth were there
before or have just been given, none more often than before. So they stay distinct, a number that is
gone stays away, and a number leads to one node.
-/

namespace Wireframe

/-- These numbers are distinct, and all of them have been given. -/
structure Given (lastId : Nat) (ids : List Nat) : Prop where
  nodup : ids.Nodup
  le : ∀ id ∈ ids, id ≤ lastId

/-- What becomes of the numbers in use while those above `low` up to `high` are given: each was in
use before or is a new one, and none is there more often. -/
def Renewed (low high : Nat) (before after : List Nat) : Prop :=
  ∃ new, Taken True low high new ∧ after.Subperm (before ++ new)

namespace Renewed

variable {low middle high : Nat} {before between after : List Nat}

theorem drop (le : low ≤ high) (sub : after.Subperm before) : Renewed low high before after := by
  refine ⟨[], .skip le, ?_⟩
  rwa [List.append_nil]

theorem refl (lastId : Nat) (ids : List Nat) : Renewed lastId lastId ids ids :=
  drop (Nat.le_refl lastId) (List.Subperm.refl ids)

theorem trans (first : Renewed low middle before between)
    (second : Renewed middle high between after) : Renewed low high before after := by
  obtain ⟨new, taken, fromBefore⟩ := first
  obtain ⟨newer, later, fromBetween⟩ := second
  refine ⟨new ++ newer, taken.append later, ?_⟩
  rw [← List.append_assoc]
  exact fromBetween.trans (fromBefore.append (List.Subperm.refl newer))

theorem beside (renewed : Renewed low high before after) (spare : List Nat) :
    Renewed low high (before ++ spare) (after ++ spare) := by
  obtain ⟨new, taken, numbers⟩ := renewed
  refine ⟨new, taken, ?_⟩
  have swapped : (before ++ new ++ spare).Perm (before ++ spare ++ new) := by
    rw [List.append_assoc, List.append_assoc]
    exact List.perm_append_comm.append_left before
  exact (numbers.append (List.Subperm.refl spare)).trans swapped.subperm

theorem lastId_le (renewed : Renewed low high before after) : low ≤ high := by
  obtain ⟨_, taken, _⟩ := renewed
  exact taken.le

theorem mem (renewed : Renewed low high before after) {id : Nat} (present : id ∈ after) :
    id ∈ before ∨ low < id := by
  obtain ⟨new, taken, numbers⟩ := renewed
  rcases List.mem_append.mp (numbers.subset present) with old | given
  · exact Or.inl old
  · exact Or.inr (taken.range id given).1

theorem given (renewed : Renewed low high before after) (given : Given low before) :
    Given high after := by
  obtain ⟨new, taken, numbers⟩ := renewed
  have fresh : new.Nodup := taken.ascending.imp Nat.ne_of_lt
  have apart : ∀ old ∈ before, ∀ id ∈ new, old ≠ id := by
    intro old present id next
    exact Nat.ne_of_lt (Nat.lt_of_le_of_lt (given.le old present) (taken.range id next).1)
  have all : (before ++ new).Nodup := List.nodup_append.mpr ⟨given.nodup, fresh, apart⟩
  constructor
  · obtain ⟨ids, same, sub⟩ := numbers
    exact same.nodup_iff.mp (all.sublist sub)
  · intro id present
    rcases List.mem_append.mp (numbers.subset present) with old | next
    · exact Nat.le_trans (given.le id old) taken.le
    · exact (taken.range id next).2

end Renewed

namespace Node

theorem idsOf_sublist {some all : List Node} (sub : some.Sublist all) :
    (idsOf some).Sublist (idsOf all) := by
  induction sub with
  | slnil => exact List.Sublist.refl _
  | cons node _ ih =>
      rw [idsOf_cons]
      exact ih.trans (List.sublist_append_right _ _)
  | cons_cons node _ ih =>
      rw [idsOf_cons, idsOf_cons]
      exact ih.append_left _

theorem id_mem_ids (node : Node) : node.id ∈ node.ids := by
  rw [ids_eq]
  exact List.mem_append_right _ (List.mem_singleton_self _)

theorem mem_idsOf {id : Nat} {nodes : List Node} :
    id ∈ idsOf nodes ↔ ∃ node ∈ nodes, id ∈ node.ids := by
  induction nodes with
  | nil => simp
  | cons node rest ih => simp [ih]

theorem ids_append (more : List Node) (node : Node) :
    (node.append more).ids.Subperm (node.ids ++ idsOf more) := by
  cases node with
  | leaf header content => exact (List.sublist_append_left _ _).subperm
  | container header frame children =>
      rw [append, ids_container, ids_container, idsOf_append, List.append_assoc, List.append_assoc]
      exact (List.perm_append_comm.append_left _).subperm

theorem ids_removeChild (child : Nat) (node : Node) :
    (node.removeChild child).ids.Sublist node.ids := by
  cases node with
  | leaf header content => exact List.Sublist.refl _
  | container header frame children =>
      rw [removeChild, ids_container, ids_container]
      exact (idsOf_sublist List.eraseP_sublist).append (List.Sublist.refl _)

theorem children_removeChild (id : Nat) (node : Node) :
    (node.removeChild id).children = node.children.eraseP fun child => child.id = id := by
  cases node <;> rfl

@[simp] theorem ids_resize (size : Size) (node : Node) : (node.resize size).ids = node.ids := by
  cases node with
  | leaf header content => rfl
  | container header frame children => rw [resize, ids_container, ids_container]

end Node

theorem Draft.ids_node (id : Nat) (draft : Draft) : (draft.node id).ids = [id] := by
  cases draft with
  | leaf name content => simp [node, Node.ids, Node.Header.fresh]
  | frame name content => simp [node, Node.ids, Node.Header.fresh]

namespace Page

theorem idsOf_modifyFirst {p : Node → Bool} {change : Node → Node} {new : List Nat}
    (grows : ∀ node, (change node).ids.Subperm (node.ids ++ new)) (frames : List Node) :
    (Node.idsOf (modifyFirst p change frames)).Subperm (Node.idsOf frames ++ new) := by
  induction frames with
  | nil => exact List.nil_subperm
  | cons node rest ih =>
      rw [modifyFirst]
      split
      · have grown := (grows node).append (List.Subperm.refl (Node.idsOf rest))
        rw [Node.idsOf_cons, Node.idsOf_cons, List.append_assoc]
        rw [List.append_assoc] at grown
        exact grown.trans (List.perm_append_comm.append_left _).subperm
      · rw [Node.idsOf_cons, Node.idsOf_cons, List.append_assoc]
        exact (List.Subperm.refl _).append ih

@[simp] theorem idsOf_place (node : Node) (page : Page) :
    Node.idsOf (page.place node).frames = Node.idsOf page.frames ++ node.ids := by
  change Node.idsOf (page.frames ++ [_]) = _
  rw [Node.idsOf_append, Node.idsOf_cons, Node.idsOf_nil, List.append_nil, Node.ids_withPosition]

abbrev Ages (before after : Page) : Prop :=
  Renewed before.lastId after.lastId (Node.idsOf before.frames) (Node.idsOf after.frames)

namespace Ages

variable {page : Page}

theorem drop {lastId : Nat} (le : page.lastId ≤ lastId) {frames : List Node}
    (sub : frames.Sublist page.frames) : Ages page { page with frames, lastId } :=
  Renewed.drop le (Node.idsOf_sublist sub).subperm

theorem modify {lastId : Nat} {new : List Nat} (taken : Taken True page.lastId lastId new)
    (id : Nat) {change : Node → Node}
    (grows : ∀ node, (change node).ids.Subperm (node.ids ++ new)) :
    Ages page ({ page with lastId }.modify id change) :=
  ⟨new, taken, idsOf_modifyFirst grows page.frames⟩

theorem alter (id : Nat) {change : Node → Node}
    (kept : ∀ node, (change node).ids.Sublist node.ids) : Ages page (page.modify id change) := by
  apply modify (.none _ _)
  intro node
  rw [List.append_nil]
  exact (kept node).subperm

theorem remove (id : Nat) : Ages page (page.remove id) :=
  drop (Nat.le_refl _) List.eraseP_sublist

theorem add (draft : Draft) : Ages page (page.add draft).2 := by
  refine ⟨[page.lastId + 1], Taken.next (.none _ _), ?_⟩
  change (Node.idsOf (page.freshId.2.place _).frames).Subperm _
  rw [idsOf_place, Draft.ids_node]
  exact List.Subperm.refl _

theorem edit (edit : Edit) : Ages page (page.edit edit) := by
  cases edit with
  | takeId => exact drop (Nat.le_succ _) (List.Sublist.refl _)
  | add draft => exact add draft
  | appendChild id draft =>
      apply modify (Taken.next (.none _ _))
      intro node
      have grown := Node.ids_append [draft.node (page.lastId + 1)] node
      rwa [Node.idsOf_cons, Node.idsOf_nil, List.append_nil, Draft.ids_node] at grown
  | removeChild id child => exact alter id (Node.ids_removeChild child)
  | remove id => exact remove id
  | move id position =>
      apply alter
      intro node
      rw [Node.ids_withPosition]
  | resize id size =>
      apply alter
      intro node
      rw [Node.ids_resize]

end Ages

abbrev Distinct (page : Page) : Prop := Given page.lastId (Node.idsOf page.frames)

/-- A frame on the page, the frames before and behind it and what its number leads to. No other node
has that number, and looking it up, changing or removing what it leads to is about this frame. So it
is with the numbers of its children. -/
structure Leads (page : Page) (frame : Node) (front back : List Node) : Prop where
  frames : page.frames = front ++ frame :: back
  alone : frame.id ∉ Node.idsOf (front ++ frame.children ++ back)
  found : page.frame? frame.id = some frame
  changed : ∀ change, (page.modify frame.id change).frames = front ++ change frame :: back
  removed : (page.remove frame.id).frames = front ++ back
  child : ∀ child ∈ frame.children, ∃ left right, frame.children = left ++ child :: right ∧
    child.id ∉ frame.id :: Node.idsOf (front ++ left ++ child.children ++ right ++ back) ∧
    (frame.removeChild child.id).children = left ++ right ∧
    (page.removeChild frame.id child.id).frames = front ++ frame.removeChild child.id :: back

theorem eraseP_split {front back : List Node} {node : Node}
    (apart : ∀ other ∈ front, other.id ≠ node.id) :
    (front ++ node :: back).eraseP (fun other => other.id = node.id) = front ++ back := by
  rw [List.eraseP_append_right, List.eraseP_cons_of_pos]
  · exact decide_eq_true rfl
  · intro other early
    simpa using apart other early

theorem apart_of_notMem {id : Nat} {nodes : List Node} (absent : id ∉ Node.idsOf nodes) :
    ∀ node ∈ nodes, node.id ≠ id := by
  intro node present same
  exact absent (Node.mem_idsOf.mpr ⟨node, present, same ▸ node.id_mem_ids⟩)

/-- On a page with distinct numbers the number of a frame leads to it. -/
theorem Distinct.leads {page : Page} (distinct : page.Distinct) {frame : Node}
    (present : frame ∈ page.frames) : ∃ front back, page.Leads frame front back := by
  obtain ⟨front, back, split⟩ := List.append_of_mem present
  have nodup := distinct.nodup
  rw [split, Node.idsOf_append, Node.idsOf_cons, Node.ids_eq] at nodup
  -- The numbers are moved to the front of the list, where they show that they recur nowhere.
  have alone : frame.id ∉ Node.idsOf (front ++ frame.children ++ back) := by
    have moved : (frame.id :: (Node.idsOf front ++ Node.idsOf frame.children ++
        Node.idsOf back)).Nodup := by
      rw [← List.nodup_middle]
      simpa using nodup
    simpa using (List.nodup_cons.mp moved).1
  have before : ∀ other ∈ front, other.id ≠ frame.id := by
    apply apart_of_notMem
    intro early
    exact alone (by simp [early])
  have changed (change : Node → Node) :
      (page.modify frame.id change).frames = front ++ change frame :: back := by
    rw [modify, split]
    exact modifyFirst_append before rfl back change
  refine ⟨front, back, split, alone, ?_, changed, ?_, ?_⟩
  · rw [frame?, split]
    apply List.find?_eq_some_iff_append.mpr
    refine ⟨decide_eq_true rfl, front, back, rfl, ?_⟩
    intro other early
    simpa using before other early
  · rw [remove, split]
    exact eraseP_split before
  · intro child below
    obtain ⟨left, right, children⟩ := List.append_of_mem below
    have childAlone : child.id ∉
        frame.id :: Node.idsOf (front ++ left ++ child.children ++ right ++ back) := by
      rw [children, Node.idsOf_append, Node.idsOf_cons, Node.ids_eq] at nodup
      have moved : (child.id :: (Node.idsOf front ++ Node.idsOf left ++ Node.idsOf child.children ++
          (Node.idsOf right ++ frame.id :: Node.idsOf back))).Nodup := by
        rw [← List.nodup_middle]
        simpa using nodup
      have absent := (List.nodup_cons.mp moved).1
      simp at absent ⊢
      tauto
    refine ⟨left, right, children, childAlone, ?_, changed _⟩
    rw [Node.children_removeChild, children]
    apply eraseP_split
    apply apart_of_notMem
    intro early
    exact childAlone (by simp [early])

end Page

end Wireframe
