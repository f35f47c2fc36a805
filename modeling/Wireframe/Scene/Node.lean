import Wireframe.Scene.Style
import Wireframe.Vector.Basic

namespace Wireframe

structure Text.Run where
  characters : String
  font : FontName
  fontSize : Float32
  fill : Color
  align : TextAlign
  verticalAlign : Alignment
  autoResize : AutoResize
  decoration : Decoration
  deriving DecidableEq

structure Shape where
  size : Size
  cornerRadius : Float32
  fills : List Paint
  stroke : Option Stroke
  deriving DecidableEq

structure Frame where
  size : Size
  layout : Axis
  primarySizing : Sizing
  counterSizing : Sizing
  primaryAlign : Distribution
  counterAlign : Alignment
  spacing : Float32
  padding : Padding
  cornerRadius : Float32
  fills : List Paint
  stroke : Option Stroke
  shadow : Option Shadow
  clipsContent : Bool
  deriving DecidableEq

def Frame.plain (size : Size) : Frame :=
  { size
    layout := .none
    primarySizing := .fixed
    counterSizing := .fixed
    primaryAlign := .min
    counterAlign := .min
    spacing := 0
    padding := .none
    cornerRadius := 0
    fills := []
    stroke := none
    shadow := none
    clipsContent := false }

inductive Leaf where
  | text (run : Text.Run)
  | rectangle (shape : Shape)
  | ellipse (shape : Shape)
  | vector (vector : Vector)

/-- What every node has; `position` is its offset in a parent that does not lay it out. -/
structure Node.Header where
  id : Nat
  name : String
  layoutAlign : LayoutAlign
  layoutGrow : Float32
  position : Option Point
  deriving DecidableEq

inductive Node where
  | leaf (header : Node.Header) (content : Leaf)
  | container (header : Node.Header) (frame : Frame) (children : List Node)

namespace Node

def Header.fresh (id : Nat) (name : String) : Header := ⟨id, name, .inherit, 0, none⟩

def header : Node → Header
  | .leaf header _ => header
  | .container header _ _ => header

def id (node : Node) : Nat := node.header.id

def name (node : Node) : String := node.header.name

def mapHeader (change : Header → Header) : Node → Node
  | .leaf header content => .leaf (change header) content
  | .container header frame children => .container (change header) frame children

def rename (name : String) : Node → Node := mapHeader ({ · with name })

def withAlign (layoutAlign : LayoutAlign) : Node → Node := mapHeader ({ · with layoutAlign })

def withGrow (layoutGrow : Float32) : Node → Node := mapHeader ({ · with layoutGrow })

def withPosition (position : Option Point) : Node → Node := mapHeader ({ · with position })

def mapText (change : Text.Run → Text.Run) : Node → Node
  | .leaf header (.text run) => .leaf header (.text (change run))
  | node => node

def children : Node → List Node
  | .leaf .. => []
  | .container _ _ children => children

def frame? : Node → Option Frame
  | .leaf .. => none
  | .container _ frame _ => some frame

def tag : Node → String
  | .leaf _ (.text _) => "TEXT"
  | .leaf _ (.rectangle _) => "RECTANGLE"
  | .leaf _ (.ellipse _) => "ELLIPSE"
  | .leaf _ (.vector _) => "VECTOR"
  | .container .. => "CONTAINER"

mutual

def find? (name : String) : Node → Option Node
  | .leaf header content => if header.name = name then some (.leaf header content) else none
  | .container header frame children =>
      if header.name = name then some (.container header frame children)
      else findIn? name children

def findIn? (name : String) : List Node → Option Node
  | [] => none
  | node :: rest => (node.find? name).or (findIn? name rest)

end

mutual

/-- The ids of a tree, children before their parent. -/
def ids : Node → List Nat
  | .leaf header _ => [header.id]
  | .container header _ children => idsOf children ++ [header.id]

def idsOf : List Node → List Nat
  | [] => []
  | node :: rest => node.ids ++ idsOf rest

end

end Node

end Wireframe
