import Wireframe.Svg.Extent
import Wireframe.Svg.Ink
/-!
What a document draws: groups, painted paths and images, each with the boxes that it takes up. How
some paints look is only known when the boxes of all figures are.
-/

namespace Wireframe.Svg

inductive Pigment where
  | ink (ink : Ink)
  | picture (byBox contentByBox : Bool)
  deriving DecidableEq, Repr

/-- Whose box a picture is measured by: that of the path itself, of the path that markers are put on
if it has one, or of what an element uses. -/
inductive Measure where
  | own
  | marked (hasBox : Bool)
  | used
  deriving DecidableEq, Repr

structure Coat where
  pigment : Pigment
  opacity : Float32
  measure : Measure

namespace Coat

def ofInk (ink : Ink) (opacity : Float32) : Coat := ⟨.ink ink, opacity, .own⟩

def settle (coat : Coat) : Coat :=
  match coat.measure, coat.pigment with
  | .marked true, .picture .. => ⟨.picture false false, coat.opacity, .own⟩
  | .marked _, pigment => ⟨pigment, coat.opacity, .own⟩
  | _, _ => coat

def paint? (frame : Option Rect) (box : Rect) (coat : Coat) : Option Vector.Paint :=
  match coat.pigment with
  | .ink ink => some (.solid (ink.color coat.opacity))
  | .picture byBox contentByBox =>
      let box? := if coat.measure = .used then frame else some box
      if !(byBox || contentByBox) || box?.any Rect.hasArea then some .other else none

end Coat

/-- A group, whose box is in its own coordinates; a path; or an image, of which nothing is kept but
its boxes. `reach` is the box in the coordinates of the document. A group may be the frame that what
is used is measured by. -/
inductive Figure where
  | group (id : String) (transform : Matrix) (opacity : Float32) (isFrame : Bool) (box reach : Rect)
      (children : List Figure)
  | path (id : String) (segments : List Segment) (isVisible : Bool) (fill : Option Coat)
      (stroke : Option (Coat × Float32)) (box reach : Rect)
  | image (box reach : Rect)

namespace Figure

def box : Figure → Rect
  | .group _ transform _ _ box _ _ => (box.transform? transform).getD box
  | .path _ _ _ _ _ box _ => box
  | .image box _ => box

def reach : Figure → Rect
  | .group _ _ _ _ _ reach _ => reach
  | .path _ _ _ _ _ _ reach => reach
  | .image _ reach => reach

def boxOf (figures : List Figure) : Rect := (Rect.around? (figures.map box)).getD .zero

def reachOf (figures : List Figure) : Rect := (Rect.around? (figures.map reach)).getD .zero

def enclose (id : String) (transform : Matrix) (opacity : Float32) (isFrame : Bool)
    (children : List Figure) : Figure :=
  .group id transform opacity isFrame (boxOf children) (reachOf children) children

mutual

def elements (frame : Option Rect) : Figure → List Vector.Element
  | .group id transform opacity isFrame box _ children =>
      [.group id (if transform.isIdentity then none else some transform) opacity
        (elementsOf (if isFrame then some box else frame) children)]
  | .path id segments isVisible fill stroke box _ =>
      if isVisible then
        [.path id (pathText segments) (fill.bind (Coat.paint? frame box))
          (stroke.bind fun (coat, width) => (coat.paint? frame box).map (⟨·, width⟩))]
      else []
  | .image .. => []

def elementsOf (frame : Option Rect) : List Figure → List Vector.Element
  | [] => []
  | figure :: rest => figure.elements frame ++ elementsOf frame rest

end

end Figure

end Wireframe.Svg
