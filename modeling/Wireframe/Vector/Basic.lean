import Wireframe.Color.Basic
import Wireframe.Geometry
/-!
Vector artwork: a tree of groups and painted paths, drawn at a size of its own. Recolouring replaces
the solid fills that are not white and leaves everything else as it is.
-/

namespace Wireframe

/-- The matrix `a c e / b d f` in the order of its entries. -/
structure Matrix where
  a : Float32
  b : Float32
  c : Float32
  d : Float32
  e : Float32
  f : Float32
  deriving DecidableEq

namespace Vector

inductive Paint where
  | solid (color : Color)
  | other
  deriving DecidableEq

structure Stroke where
  paint : Paint
  width : Float32
  deriving DecidableEq

inductive Element where
  | group (id : String) (transform : Option Matrix) (opacity : Float32) (children : List Element)
  | path (id : String) (data : String) (fill : Option Paint) (stroke : Option Stroke)

end Vector

/-- A vector drawn at `size`, whose paths lie in a box of size `viewBox`. Artwork of several tones
keeps its colours. -/
structure Vector where
  size : Size
  viewBox : Size
  root : Vector.Element
  preserveColors : Bool

namespace Vector

def solid? : Option Paint → Option Color
  | some (.solid color) => some color
  | _ => none

def recolors (fill : Option Paint) : Bool :=
  match solid? fill with
  | some color => !color.isWhite
  | none => false

mutual

def Element.fills : Element → List (Option Paint)
  | .group _ _ _ children => fillsOf children
  | .path _ _ fill _ => [fill]

def fillsOf : List Element → List (Option Paint)
  | [] => []
  | element :: rest => element.fills ++ fillsOf rest

end

mutual

/-- One pass over the artwork that recolours the fills and counts those that it replaces. -/
def Element.pass (color : Color) : Element → Element × Nat
  | .group id transform opacity children =>
      let (children, replaced) := passAll color children
      (.group id transform opacity children, replaced)
  | .path id data fill stroke =>
      if recolors fill then (.path id data (some (.solid color)) stroke, 1)
      else (.path id data fill stroke, 0)

def passAll (color : Color) : List Element → List Element × Nat
  | [] => ([], 0)
  | element :: rest =>
      let (element, first) := element.pass color
      let (rest, later) := passAll color rest
      (element :: rest, first + later)

end

def pathCount (vector : Vector) : Nat := vector.root.fills.length

def fillColors (vector : Vector) : List (Option Color) := vector.root.fills.map solid?

def recolor (vector : Vector) (color : Color) : Vector × Nat :=
  if vector.preserveColors then (vector, 0)
  else
    let (root, replaced) := vector.root.pass color
    ({ vector with root }, replaced)

def Paint.toJson : Paint → Json
  | .solid color => .object [("type", .string "SOLID"), ("color", color.toJson)]
  | .other => .object [("type", .string "OTHER")]

def paintToJson : Option Paint → Json
  | some paint => paint.toJson
  | none => .null

def strokeToJson : Option Stroke → Json
  | some stroke => .object [("paint", stroke.paint.toJson), ("width", .single stroke.width)]
  | none => .null

def transformToJson : Option Matrix → List (String × Json)
  | some m =>
      [("transform", .array ([m.a, m.b, m.c, m.d, m.e, m.f].map .single))]
  | none => []

mutual

def Element.toJson : Element → Json
  | .group id transform opacity children =>
      .object ([("element", .string "group"), ("id", .string id)] ++ transformToJson transform ++
        [("opacity", .single opacity), ("children", .array (elementsToJson children))])
  | .path id data fill stroke =>
      .object [("element", .string "path"), ("id", .string id), ("data", .string data),
        ("fill", paintToJson fill), ("stroke", strokeToJson stroke)]

def elementsToJson : List Element → List Json
  | [] => []
  | element :: rest => element.toJson :: elementsToJson rest

end

def jsonMembers (vector : Vector) : List (String × Json) :=
  [("size", vector.size.toJson), ("viewBox", vector.viewBox.toJson), ("root", vector.root.toJson)]

def toJson (vector : Vector) : Json := .object vector.jsonMembers

end Vector

end Wireframe
