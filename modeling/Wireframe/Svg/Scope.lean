import Wireframe.Svg.Figure
import Wireframe.Svg.Place

namespace Wireframe.Svg

/-- The elements that links lead to; the size of the view; the sides that an element which uses a
document gives to it; whether a clip path is drawn; the markers that are being drawn; the fill and
the stroke of what uses or marks the element; and the sizes of images by their links. -/
structure Scope where
  index : Index
  view : Size
  givenSides : Option Float32 × Option Float32
  isClip : Bool
  markers : List Nat
  contextFill : Option Coat
  contextStroke : Option Coat
  imageSize? : String → Option Size

namespace Scope

def place (scope : Scope) (site : Site) : Place := ⟨site, scope.view⟩

def idOf (scope : Scope) (site : Site) : String :=
  if scope.markers.isEmpty then (site.attribute? "id").getD "" else ""

end Scope

/-- Draws the elements in another that a link leads to, under a transform: all of them, or those
that can be part of a clip path. -/
structure Painter where
  content : Scope → Site → Matrix → List Figure
  clipContent : Scope → Site → Matrix → List Figure

namespace Painter

def blank : Painter := ⟨fun _ _ _ => [], fun _ _ _ => []⟩

/-- Whether an element that a link leads to draws anything, be it out of sight. -/
def draws (painter : Painter) (scope : Scope) (site : Site) : Bool :=
  !(painter.content scope site .identity).isEmpty

def drawsClip (painter : Painter) (scope : Scope) (site : Site) : Bool :=
  !(painter.clipContent { scope with isClip := true } site .identity).isEmpty

end Painter

def region? (scope : Scope) (chain : List Site) (site : Site) (byBox : Bool)
    (corner size : Length) : Option Rect :=
  let length (side : Side) (standard : Length) (name : String) : Float32 :=
    (scope.place ((chainOwner? chain name).getD site)).boxLength byBox side standard name
  Rect.at? (length .width corner "x") (length .height corner "y") (length .width size "width")
    (length .height size "height")

def chainAttribute? (chain : List Site) (name : String) : Option String :=
  (chainOwner? chain name).bind fun site => site.attribute? name

end Wireframe.Svg
