import Wireframe.Page.Placement
import Wireframe.Scene.Node
/-!
The page: its frames in the order in which they were added, the last number given to a node, and the
part of it that is in view. Frames are found by their number.
-/

namespace Wireframe

structure Viewport where
  center : Point
  top : Float32
  deriving DecidableEq

namespace Viewport

def origin : Viewport := ⟨.origin, 0⟩

def toJson (viewport : Viewport) : Json :=
  .object [("center", viewport.center.toJson), ("top", .single viewport.top)]

end Viewport

inductive Draft where
  | leaf (name : String) (content : Leaf)
  | frame (name : String) (content : Frame)

def Draft.node (id : Nat) : Draft → Node
  | .leaf name content => .leaf (.fresh id name) content
  | .frame name content => .container (.fresh id name) content []

@[simp] theorem Draft.id_node (id : Nat) (draft : Draft) : (draft.node id).id = id := by
  cases draft <;> rfl

namespace Node

def size? (node : Node) : Option Size := node.frame?.map Frame.size

def append (more : List Node) : Node → Node
  | .container header frame children => .container header frame (children ++ more)
  | node => node

def removeChild (id : Nat) : Node → Node
  | .container header frame children =>
      .container header frame (children.eraseP fun child => child.id = id)
  | node => node

def resize (size : Size) : Node → Node
  | .container header frame children => .container header { frame with size } children
  | node => node

@[simp] theorem id_withPosition (position : Option Point) (node : Node) :
    (node.withPosition position).id = node.id := by
  cases node <;> rfl

@[simp] theorem id_append (more : List Node) (node : Node) : (node.append more).id = node.id := by
  cases node <;> rfl

@[simp] theorem id_removeChild (id : Nat) (node : Node) : (node.removeChild id).id = node.id := by
  cases node <;> rfl

@[simp] theorem id_resize (size : Size) (node : Node) : (node.resize size).id = node.id := by
  cases node <;> rfl

/-- What placement sees of a node: one without a position lies at the origin, and one that is no
container has no width. -/
def box (node : Node) : Box Float32 :=
  let position := node.header.position.getD .origin
  ⟨position.x, position.y, (node.size?.getD .zero).width⟩

end Node

structure Page where
  frames : List Node
  lastId : Nat
  viewport : Viewport
  gap : Float32

namespace Page

def empty (viewport : Viewport) (gap : Float32) : Page := ⟨[], 0, viewport, gap⟩

def firstFrameOffset : Float32 := 100

def nextPosition (page : Page) (size : Size) : Point :=
  let (x, y) := Box.next page.gap page.viewport.center.x (page.viewport.top + firstFrameOffset)
    size.width (page.frames.map Node.box)
  ⟨x, y⟩

def frame? (page : Page) (id : Nat) : Option Node := page.frames.find? fun frame => frame.id = id

def modifyFirst (p : Node → Bool) (change : Node → Node) : List Node → List Node
  | [] => []
  | node :: rest => if p node then change node :: rest else node :: modifyFirst p change rest

def modify (id : Nat) (change : Node → Node) (page : Page) : Page :=
  { page with frames := modifyFirst (fun frame => frame.id = id) change page.frames }

def freshId (page : Page) : Nat × Page :=
  (page.lastId + 1, { page with lastId := page.lastId + 1 })

def place (node : Node) (page : Page) : Page :=
  let position := page.nextPosition (node.size?.getD .zero)
  { page with frames := page.frames ++ [node.withPosition (some position)] }

def add (draft : Draft) (page : Page) : Nat × Page :=
  let (id, page) := page.freshId
  (id, page.place (draft.node id))

/-- Adds a child to a frame under the next number, which is also taken when there is no such frame.
-/
def appendChild (id : Nat) (draft : Draft) (page : Page) : Nat × Page :=
  let (child, page) := page.freshId
  (child, page.modify id (·.append [draft.node child]))

def removeChild (id child : Nat) (page : Page) : Page := page.modify id (·.removeChild child)

def remove (id : Nat) (page : Page) : Page :=
  { page with frames := page.frames.eraseP fun frame => frame.id = id }

def move (id : Nat) (position : Option Point) (page : Page) : Page :=
  page.modify id (·.withPosition position)

def resize (id : Nat) (size : Size) (page : Page) : Page := page.modify id (·.resize size)

inductive Edit where
  | takeId
  | add (draft : Draft)
  | appendChild (id : Nat) (draft : Draft)
  | removeChild (id child : Nat)
  | remove (id : Nat)
  | move (id : Nat) (position : Option Point)
  | resize (id : Nat) (size : Size)

def edit (page : Page) : Edit → Page
  | .takeId => page.freshId.2
  | .add draft => (page.add draft).2
  | .appendChild id draft => (page.appendChild id draft).2
  | .removeChild id child => page.removeChild id child
  | .remove id => page.remove id
  | .move id position => page.move id position
  | .resize id size => page.resize id size

end Page

end Wireframe
