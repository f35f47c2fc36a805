namespace Wireframe.Svg

/-- Elements that are read; all others are passed over with what is in them. `inert` stands for
those that do nothing of themselves. -/
inductive Tag where
  | circle
  | clipPath
  | defs
  | ellipse
  | filter
  | filterStep
  | g
  | image
  | inert
  | line
  | linearGradient
  | marker
  | mask
  | path
  | pattern
  | polygon
  | polyline
  | radialGradient
  | rect
  | stop
  | svg
  | switch
  | symbol
  | text
  | use
  deriving DecidableEq, Repr

def filterSteps : List String := [
  "feBlend", "feColorMatrix", "feComponentTransfer", "feComposite", "feConvolveMatrix",
  "feDiffuseLighting", "feDisplacementMap", "feDropShadow", "feFlood", "feGaussianBlur", "feImage",
  "feMerge", "feMorphology", "feOffset", "feSpecularLighting", "feTile", "feTurbulence"]

def inertNames : List String := [
  "feDistantLight", "feFuncA", "feFuncB", "feFuncG", "feFuncR", "feMergeNode", "fePointLight",
  "feSpotLight", "textPath", "tref", "tspan"]

namespace Tag

def ofName? (name : String) : Option Tag :=
  match name with
  | "a" | "g" => some .g
  | "circle" => some .circle
  | "clipPath" => some .clipPath
  | "defs" => some .defs
  | "ellipse" => some .ellipse
  | "filter" => some .filter
  | "image" => some .image
  | "line" => some .line
  | "linearGradient" => some .linearGradient
  | "marker" => some .marker
  | "mask" => some .mask
  | "path" => some .path
  | "pattern" => some .pattern
  | "polygon" => some .polygon
  | "polyline" => some .polyline
  | "radialGradient" => some .radialGradient
  | "rect" => some .rect
  | "stop" => some .stop
  | "svg" => some .svg
  | "switch" => some .switch
  | "symbol" => some .symbol
  | "text" => some .text
  | "use" => some .use
  | name =>
      if filterSteps.contains name then some .filterStep
      else if inertNames.contains name then some .inert
      else none

def isGraphic : Tag → Bool
  | .circle | .ellipse | .image | .line | .path | .polygon | .polyline | .rect | .text
  | .use => true
  | _ => false

def isGradient : Tag → Bool
  | .linearGradient | .radialGradient => true
  | _ => false

end Tag

abbrev Attributes := List (String × String)

/-- An element, its attributes, and the elements in it. No two elements of a document have the same
key. -/
inductive Element where
  | mk (key : Nat) (tag : Tag) (attributes : Attributes) (children : List Element)

namespace Element

def key : Element → Nat
  | .mk key _ _ _ => key

def tag : Element → Tag
  | .mk _ tag _ _ => tag

def attributes : Element → Attributes
  | .mk _ _ attributes _ => attributes

def children : Element → List Element
  | .mk _ _ _ children => children

def attribute? (element : Element) (name : String) : Option String :=
  element.attributes.lookup name

mutual

def withAll : Element → List Element
  | .mk key tag attributes children => .mk key tag attributes children :: allOf children

def allOf : List Element → List Element
  | [] => []
  | element :: rest => element.withAll ++ allOf rest

end

mutual

/-- Gives every element its place in document order as its key, counted from a first one; also
gives the key after the last. -/
def numbered (first : Nat) : Element → Element × Nat
  | .mk _ tag attributes children =>
      let (children, next) := numberedAll (first + 1) children
      (.mk first tag attributes children, next)

def numberedAll (first : Nat) : List Element → List Element × Nat
  | [] => ([], first)
  | element :: rest =>
      let (element, next) := element.numbered first
      let (rest, next) := numberedAll next rest
      (element :: rest, next)

end

end Element

end Wireframe.Svg
