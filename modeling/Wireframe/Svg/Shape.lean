import Wireframe.Svg.PathData
import Wireframe.Svg.Place

namespace Wireframe.Svg

def arcTo (rx ry : Float32) (start stop : Point) : List Segment :=
  let arc : EndArc :=
    ⟨.ofPoint start, .ofPoint stop, Binary.widen rx, Binary.widen ry, 0, false, true⟩
  match arc.toCurves with
  | none => [.line stop]
  | some curves => curves.map fun (c, d, p) => .cubic c.narrow d.narrow p.narrow

def lastPoint (segments : List Segment) : Point :=
  ((segments.flatMap Segment.points).getLast?).getD .origin

def addArc (rx ry : Float32) (stop : Point) (segments : List Segment) : List Segment :=
  segments ++ arcTo rx ry (lastPoint segments) stop

/-- The horizontal and vertical radius: one stands for both, and negative ones do not count. -/
def radii (place : Place) : Float32 × Float32 :=
  let given (side : Side) (name : String) : Option Float32 :=
    match (place.attribute? name).bind Length.ofText? with
    | none => none
    | some length =>
        if length.number < 0 ∨ length.number.toBits = (-0.0 : Float).toBits then none
        else some (length.toUser place side)
  match given .width "rx", given .height "ry" with
  | some rx, some ry => (rx, ry)
  | some rx, none => (rx, rx)
  | none, some ry => (ry, ry)
  | none, none => (0, 0)

def rectSegments (x y width height rx ry : Float32) : List Segment :=
  if isZero rx && isZero ry then
    let right := width + x
    let bottom := height + y
    [.move ⟨x, y⟩, .line ⟨right, y⟩, .line ⟨right, bottom⟩, .line ⟨x, bottom⟩, .close]
  else
    let corner (stop : Point) := addArc rx ry stop
    let side (stop : Point) (segments : List Segment) := segments ++ [.line stop]
    [.move ⟨x + rx, y⟩]
      |> side ⟨x + width - rx, y⟩
      |> corner ⟨x + width, y + ry⟩
      |> side ⟨x + width, y + height - ry⟩
      |> corner ⟨x + width - rx, y + height⟩
      |> side ⟨x + rx, y + height⟩
      |> corner ⟨x, y + height - ry⟩
      |> side ⟨x, y + ry⟩
      |> corner ⟨x + rx, y⟩
      |> (· ++ [.close])

def rect? (place : Place) : Option (List Segment) :=
  let width := place.length .width "width"
  let height := place.length .height "height"
  if isPositive width && isPositive height then
    let (rx, ry) := radii place
    let rx := if width / 2 < rx then width / 2 else rx
    let ry := if height / 2 < ry then height / 2 else ry
    path? (rectSegments (place.length .width "x") (place.length .height "y") width height rx ry)
  else none

def ellipseSegments (cx cy rx ry : Float32) : List Segment :=
  [.move ⟨cx + rx, cy⟩]
    |> addArc rx ry ⟨cx, cy + ry⟩
    |> addArc rx ry ⟨cx - rx, cy⟩
    |> addArc rx ry ⟨cx, cy - ry⟩
    |> addArc rx ry ⟨cx + rx, cy⟩
    |> (· ++ [.close])

def ellipseOf? (place : Place) (rx ry : Float32) : Option (List Segment) :=
  if isPositive rx && isPositive ry then
    path? (ellipseSegments (place.length .width "cx") (place.length .height "cy") rx ry)
  else none

def circle? (place : Place) : Option (List Segment) :=
  let r := place.length .across "r"
  ellipseOf? place r r

def ellipse? (place : Place) : Option (List Segment) :=
  let (rx, ry) := radii place
  ellipseOf? place rx ry

def line? (place : Place) : Option (List Segment) :=
  path? [.move ⟨place.length .width "x1", place.length .height "y1"⟩,
    .line ⟨place.length .width "x2", place.length .height "y2"⟩]

def points : Nat → List Char → List Point
  | 0, _ => []
  | fuel + 1, cs =>
      match listPoint? cs with
      | none => []
      | some (p, rest) => p.narrow :: points fuel rest

def polyline? (place : Place) (closed : Bool) : Option (List Segment) :=
  match place.attribute? "points" with
  | none => none
  | some text =>
      match points (text.length + 1) text.toList with
      | first :: second :: rest =>
          path? (.move first :: (second :: rest).map .line ++ (if closed then [.close] else []))
      | _ => none

def shape? (place : Place) : Tag → Option (List Segment)
  | .rect => rect? place
  | .circle => circle? place
  | .ellipse => ellipse? place
  | .line => line? place
  | .polyline => polyline? place false
  | .polygon => polyline? place true
  | .path => (place.attribute? "d").bind pathOfData?
  | _ => none

end Wireframe.Svg
