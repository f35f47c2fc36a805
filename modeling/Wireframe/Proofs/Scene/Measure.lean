import Wireframe.Scene.Node

namespace Wireframe.Node

@[simp] theorem idsOf_nil : idsOf [] = [] := by rw [idsOf]

@[simp] theorem idsOf_cons (node : Node) (rest : List Node) :
    idsOf (node :: rest) = node.ids ++ idsOf rest := by
  rw [idsOf]

@[simp] theorem idsOf_append (front back : List Node) :
    idsOf (front ++ back) = idsOf front ++ idsOf back := by
  induction front with
  | nil => rw [List.nil_append, idsOf_nil, List.nil_append]
  | cons node rest ih => rw [List.cons_append, idsOf_cons, idsOf_cons, ih, List.append_assoc]

theorem ids_container (header : Header) (frame : Frame) (children : List Node) :
    (container header frame children).ids = idsOf children ++ [header.id] := by
  rw [ids]

theorem ids_eq (node : Node) : node.ids = idsOf node.children ++ [node.id] := by
  cases node with
  | leaf header content => simp [ids, children, id, Node.header]
  | container header frame children => exact ids_container header frame children

theorem ids_mapHeader {change : Header → Header}
    (kept : ∀ header : Header, (change header).id = header.id) (node : Node) :
    (node.mapHeader change).ids = node.ids := by
  cases node with
  | leaf header content => simp only [mapHeader, ids, kept]
  | container header frame children => simp only [mapHeader, ids, kept]

@[simp] theorem ids_rename (name : String) (node : Node) : (node.rename name).ids = node.ids := by
  apply ids_mapHeader
  intro header
  rfl

@[simp] theorem ids_withAlign (layoutAlign : LayoutAlign) (node : Node) :
    (node.withAlign layoutAlign).ids = node.ids := by
  apply ids_mapHeader
  intro header
  rfl

@[simp] theorem ids_withGrow (layoutGrow : Float32) (node : Node) :
    (node.withGrow layoutGrow).ids = node.ids := by
  apply ids_mapHeader
  intro header
  rfl

@[simp] theorem ids_withPosition (position : Option Point) (node : Node) :
    (node.withPosition position).ids = node.ids := by
  apply ids_mapHeader
  intro header
  rfl

@[simp] theorem ids_mapText (change : Text.Run → Text.Run) (node : Node) :
    (node.mapText change).ids = node.ids := by
  cases node with
  | leaf header content => cases content <;> simp only [mapText, ids]
  | container header frame children => rfl

mutual

def count : Node → Nat
  | .leaf _ _ => 1
  | .container _ _ children => countOf children + 1

def countOf : List Node → Nat
  | [] => 0
  | node :: rest => node.count + countOf rest

end

mutual

theorem length_ids (node : Node) : node.ids.length = node.count := by
  cases node with
  | leaf header content => simp only [ids, count, List.length_singleton]
  | container header frame children =>
      rw [ids_container, List.length_append, List.length_singleton, count, length_idsOf children]

theorem length_idsOf (nodes : List Node) : (idsOf nodes).length = countOf nodes := by
  cases nodes with
  | nil => rfl
  | cons node rest => rw [idsOf, List.length_append, countOf, length_ids node, length_idsOf rest]

end

mutual

def height : Node → Nat
  | .leaf _ _ => 1
  | .container _ _ children => heightOf children + 1

def heightOf : List Node → Nat
  | [] => 0
  | node :: rest => max node.height (heightOf rest)

end

@[simp] theorem heightOf_nil : heightOf [] = 0 := by rw [heightOf]

theorem heightOf_cons (node : Node) (rest : List Node) :
    heightOf (node :: rest) = max node.height (heightOf rest) := by
  rw [heightOf]

@[simp] theorem heightOf_singleton (node : Node) : heightOf [node] = node.height := by
  rw [heightOf_cons, heightOf_nil, Nat.max_zero]

@[simp] theorem heightOf_cons_le {node : Node} {rest : List Node} {bound : Nat} :
    heightOf (node :: rest) ≤ bound ↔ node.height ≤ bound ∧ heightOf rest ≤ bound := by
  rw [heightOf_cons, Nat.max_le]

@[simp] theorem heightOf_append_le {front back : List Node} {bound : Nat} :
    heightOf (front ++ back) ≤ bound ↔ heightOf front ≤ bound ∧ heightOf back ≤ bound := by
  induction front with
  | nil => simp
  | cons node rest ih => simp only [List.cons_append, heightOf_cons_le, ih, and_assoc]

@[simp] theorem height_mapHeader (change : Header → Header) (node : Node) :
    (node.mapHeader change).height = node.height := by
  cases node <;> simp only [mapHeader, height]

@[simp] theorem height_rename (name : String) (node : Node) :
    (node.rename name).height = node.height :=
  height_mapHeader _ node

@[simp] theorem height_withAlign (layoutAlign : LayoutAlign) (node : Node) :
    (node.withAlign layoutAlign).height = node.height :=
  height_mapHeader _ node

@[simp] theorem height_withGrow (layoutGrow : Float32) (node : Node) :
    (node.withGrow layoutGrow).height = node.height :=
  height_mapHeader _ node

@[simp] theorem height_withPosition (position : Option Point) (node : Node) :
    (node.withPosition position).height = node.height :=
  height_mapHeader _ node

@[simp] theorem height_mapText (change : Text.Run → Text.Run) (node : Node) :
    (node.mapText change).height = node.height := by
  cases node with
  | leaf header content => cases content <;> simp only [mapText, height]
  | container header frame children => rfl

end Wireframe.Node
