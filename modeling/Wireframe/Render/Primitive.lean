import Wireframe.Font
import Wireframe.Render.Build
import Wireframe.Svg.Document

namespace Wireframe

structure TextSpec where
  content : String
  size : Float32
  style : FontStyle
  align : TextAlign

inductive ShapeKind where
  | rectangle
  | ellipse
  deriving DecidableEq, Repr

namespace ShapeKind

def name : ShapeKind → String
  | .rectangle => "Rectangle"
  | .ellipse => "Ellipse"

def leaf (kind : ShapeKind) (shape : Shape) : Leaf :=
  match kind with
  | .rectangle => .rectangle shape
  | .ellipse => .ellipse shape

end ShapeKind

def Shape.plain (size : Size) (cornerRadius : Float32) (fill : Option Color)
    (stroke : Option Stroke) : Shape :=
  { size, cornerRadius, fills := (fill.map Paint.solid).toList, stroke }

def TextSpec.run (spec : TextSpec) (font : FontName) : Text.Run :=
  { characters := spec.content
    font
    fontSize := spec.size
    fill := .black
    align := spec.align
    verticalAlign := .min
    autoResize := .height
    decoration := .none }

namespace Build

def leaf (name : String) (content : Leaf) : Build Node := do
  let id ← freshId
  pure (.leaf (.fresh id name) content)

def frame (name : String) (frame : Frame) (children : List Node) : Build Node := do
  let id ← freshId
  pure (.container (.fresh id name) frame children)

def text (fonts : FontProvider) (families : List String) (spec : TextSpec) :
    Build (Except Font.Unavailable Node) :=
  match Font.resolve fonts families spec.style with
  | .ok font => do
      let node ← leaf spec.content (.text (spec.run font))
      pure (.ok node)
  | .error error => pure (.error error)

def shape (kind : ShapeKind) (shape : Shape) : Build Node := leaf kind.name (kind.leaf shape)

def vector (name markup : String) (size : Size) : Build (Option Node) :=
  match Vector.ofMarkup? markup size with
  | some vector => do
      let node ← leaf name (.vector vector)
      pure (some node)
  | none => pure none

end Build

end Wireframe
