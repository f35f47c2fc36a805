import Wireframe.Proofs.Scene.Measure

namespace Wireframe.Node

mutual

def all : Node → List Node
  | .leaf header content => [.leaf header content]
  | .container header frame children => .container header frame children :: allOf children

def allOf : List Node → List Node
  | [] => []
  | node :: rest => node.all ++ allOf rest

end

def face? : Node → Option FontName
  | .leaf _ (.text run) => some run.font
  | _ => none

def faces (node : Node) : List FontName := node.all.filterMap face?

def facesOf (nodes : List Node) : List FontName := (allOf nodes).filterMap face?

@[simp] theorem allOf_nil : allOf [] = [] := by rw [allOf]

@[simp] theorem allOf_cons (node : Node) (rest : List Node) :
    allOf (node :: rest) = node.all ++ allOf rest := by
  rw [allOf]

@[simp] theorem allOf_append (front back : List Node) :
    allOf (front ++ back) = allOf front ++ allOf back := by
  induction front with
  | nil => rfl
  | cons node rest ih => rw [List.cons_append, allOf_cons, allOf_cons, ih, List.append_assoc]

theorem all_eq (node : Node) : node.all = node :: allOf node.children := by
  cases node with
  | leaf header content => simp [all, children]
  | container header frame children => rw [all, Node.children]

@[simp] theorem facesOf_nil : facesOf [] = [] := by rw [facesOf, allOf_nil, List.filterMap_nil]

@[simp] theorem facesOf_cons (node : Node) (rest : List Node) :
    facesOf (node :: rest) = node.faces ++ facesOf rest := by
  rw [facesOf, allOf_cons, List.filterMap_append]
  rfl

@[simp] theorem facesOf_append (front back : List Node) :
    facesOf (front ++ back) = facesOf front ++ facesOf back := by
  rw [facesOf, allOf_append, List.filterMap_append]
  rfl

theorem faces_eq (node : Node) : node.faces = node.face?.toList ++ facesOf node.children := by
  rw [faces, all_eq, List.filterMap_cons]
  cases node.face? <;> rfl

@[simp] theorem faces_text (header : Header) (run : Text.Run) :
    (leaf header (.text run)).faces = [run.font] := by
  simp [faces_eq, face?, children]

@[simp] theorem faces_container (header : Header) (frame : Frame) (children : List Node) :
    (container header frame children).faces = facesOf children := by
  simp [faces_eq, face?, Node.children]

theorem mem_facesOf {font : FontName} {nodes : List Node} :
    font ∈ facesOf nodes ↔ ∃ node ∈ allOf nodes, node.face? = some font :=
  List.mem_filterMap

@[simp] theorem faces_mapHeader (change : Header → Header) (node : Node) :
    (node.mapHeader change).faces = node.faces := by
  rw [faces_eq, faces_eq]
  cases node with
  | leaf header content => cases content <;> rfl
  | container header frame children => rfl

@[simp] theorem faces_rename (name : String) (node : Node) :
    (node.rename name).faces = node.faces :=
  faces_mapHeader _ node

@[simp] theorem faces_withAlign (layoutAlign : LayoutAlign) (node : Node) :
    (node.withAlign layoutAlign).faces = node.faces :=
  faces_mapHeader _ node

@[simp] theorem faces_withGrow (layoutGrow : Float32) (node : Node) :
    (node.withGrow layoutGrow).faces = node.faces :=
  faces_mapHeader _ node

@[simp] theorem faces_withPosition (position : Option Point) (node : Node) :
    (node.withPosition position).faces = node.faces :=
  faces_mapHeader _ node

theorem faces_mapText {change : Text.Run → Text.Run}
    (kept : ∀ run : Text.Run, (change run).font = run.font) (node : Node) :
    (node.mapText change).faces = node.faces := by
  cases node with
  | leaf header content =>
      cases content with
      | text run => rw [mapText, faces_text, faces_text, kept]
      | _ => rfl
  | container header frame children => rfl

end Wireframe.Node
