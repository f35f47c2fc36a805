import Wireframe.Svg.Painting
import Wireframe.Svg.Path
import Wireframe.Svg.Transform
import Wireframe.Svg.Viewport

namespace Wireframe.Svg

def singlePi : Float32 := Float32.ofBits 0x40490FDB

def normalAngle (angle : Float32) : Float32 :=
  let rest := Binary.narrow
    (Binary.remainder (Binary.widen angle) (Binary.widen (singlePi * 2)))
  if rest < 0 then rest + singlePi * 2 else rest

def direction (p q : Point) : Float32 :=
  let angle := Float32.atan2 (q.y - p.y) (q.x - p.x)
  if angle.isNaN then 0 else normalAngle angle

def toDegrees (angle : Float32) : Float32 := angle * Float32.ofBits 0x42652EE1

def angleBetween (p q r s : Point) : Float32 :=
  let before := direction p q
  let half := (direction r s - before) * 0.5
  let angle := before + half
  toDegrees (normalAngle (if singlePi * 0.5 < half.abs then angle - singlePi else angle))

def lineAngle (p q : Point) : Float32 := angleBetween p q p q

/-- How a number lies among the numbers of its format: equal signs and neighbours are near. -/
def isNear (x y : Float32) : Bool :=
  x == y ||
    (let m := x.toBits.toNat
     let n := y.toBits.toNat
     m - n ≤ 4 && n - m ≤ 4)

def areNear (p q : Point) : Bool := isNear p.x q.x && isNear p.y q.y

/-- The direction between two curves that meet in a point, by the point where the first starts, the
control points on both sides, and the end of the second. -/
def curveAngle (start before middle after stop : Point) : Float32 :=
  if areNear before middle then angleBetween start middle middle after
  else if areNear middle after then angleBetween start before before middle
  else angleBetween start before after stop

def cubics : Point → Point → List Segment → List Segment
  | _, _, [] => []
  | first, last, segment :: rest =>
      match segment with
      | .move p => .move p :: cubics p p rest
      | .line p => .line p :: cubics first p rest
      | .quad c p =>
          let third (a b : Float32) : Float32 := (a + 2 * b) / 3
          .cubic ⟨third last.x c.x, third last.y c.y⟩ ⟨third p.x c.x, third p.y c.y⟩ p ::
            cubics first p rest
      | .cubic c d p => .cubic c d p :: cubics first p rest
      | .close => .close :: cubics first first rest

def subpathStart : List Segment → Point
  | [] => .origin
  | .move p :: _ => p
  | _ :: rest => subpathStart rest

def penAfter : List Segment → Point
  | [] => .origin
  | .move p :: _ => p
  | .line p :: _ => p
  | .quad _ p :: _ => p
  | .cubic _ _ p :: _ => p
  | .close :: rest => subpathStart rest

def startAngle : Segment → Segment → Float32
  | .move p, .line q => lineAngle p q
  | .move p, .cubic c _ _ => lineAngle p c
  | _, _ => 0

def endAngle (before : List Segment) : Segment → Float32
  | .line p => lineAngle (penAfter before) p
  | .cubic _ d p => lineAngle d p
  | .close =>
      match before with
      | .line p :: _ => lineAngle p (subpathStart before)
      | _ => 0
  | _ => 0

def middleAngle (before : List Segment) : Segment → Segment → Float32
  | .move p, .line q => lineAngle p q
  | .move p, .cubic c _ _ => lineAngle p c
  | .line p, .line q => angleBetween (penAfter before) p p q
  | .cubic _ d p, .cubic c _ q => curveAngle (penAfter before) d p c q
  | .line p, .cubic c _ q =>
      let start := penAfter before
      curveAngle start start p c q
  | .cubic _ d p, .line q => curveAngle (penAfter before) d p q q
  | .line p, .move _ => lineAngle (penAfter before) p
  | .cubic _ d p, .move _ => lineAngle d p
  | .line p, .close => angleBetween (penAfter before) p p (subpathStart before)
  | _, _ => 0

/-- A point of a path and the direction of the path there in degrees; markers may be turned around
where a path starts. -/
structure Vertex where
  point : Point
  angle : Float32
  isStart : Bool

/-- The vertices between the segments of a path and the first segment, and those after it, the last
first. -/
def innerVertices (before : List Segment) : List Segment → List Vertex
  | segment :: next :: rest =>
      let others := innerVertices (segment :: before) (next :: rest)
      match before, segment with
      | [], _ | _, .close => others
      | _, segment => ⟨penAfter [segment], middleAngle before segment next, false⟩ :: others
  | _ => []

inductive MarkerKind where
  | start
  | middle
  | stop
  deriving DecidableEq, Repr

def MarkerKind.name : MarkerKind → String
  | .start => "marker-start"
  | .middle => "marker-mid"
  | .stop => "marker-end"

def MarkerKind.vertices (path : List Segment) : MarkerKind → List Vertex
  | .start =>
      match path with
      | .move p :: next :: _ => [⟨p, startAngle (.move p) next, true⟩]
      | _ => []
  | .middle => innerVertices [] path
  | .stop =>
      match path.reverse with
      | .move _ :: _ | [] => []
      | last :: before => [⟨penAfter (last :: before), endAngle before last, false⟩]

inductive Orientation where
  | along
  | alongFromStart
  | angle (degrees : Float32)

def angle? (text : String) : Option Float :=
  match number? text.toList with
  | none => none
  | some (x, rest) =>
      match String.ofList rest with
      | "" | "deg" => some x
      | "grad" => some (x * 180 / 200)
      | "rad" => some (x * (180 / pi))
      | "turn" => some (x * 360)
      | _ => none

def Orientation.ofSite (site : Site) : Orientation :=
  match site.attribute? "orient" with
  | some "auto" => .along
  | some "auto-start-reverse" => .alongFromStart
  | some text => .angle (Binary.narrow ((angle? text).getD 0))
  | none => .angle 0

def Orientation.at (vertex : Vertex) : Orientation → Float32
  | .along => vertex.angle
  | .alongFromStart =>
      if vertex.isStart then
        Binary.narrow (Binary.remainder (Binary.widen (vertex.angle + 180)) 360)
      else vertex.angle
  | .angle degrees => degrees

def turn (degrees : Float32) : Matrix :=
  let angle := degrees * (singlePi / 180)
  ⟨angle.cos, angle.sin, -angle.sin, angle.cos, 0, 0⟩

/-- What puts a marker on a vertex of a path. Its view, or else the width of the stroke, says how
large it is; its reference point comes to lie on the vertex. -/
def markerTransform (site : Site) (box : Rect) (strokeScale : Float32) (vertex : Vertex) : Matrix :=
  let (across, down) := match viewBox? site with
    | some view =>
        ((Fit.ofSite site).transform view
          ⟨box.width * strokeScale, box.height * strokeScale⟩).scales
    | none => (strokeScale, strokeScale)
  let degrees := (Orientation.ofSite site).at vertex
  let start := Matrix.offset vertex.point.x vertex.point.y
  let turned := if isNear degrees 0 then start else start.multiply (turn degrees)
  (turned.multiply (.scaling across down)).multiply (.offset (-box.left) (-box.top))

def markerBox? (place : Place) : Option Rect :=
  let length (name : String) (side : Side) (standard : Float32) : Float32 :=
    (place.length? side name).getD standard
  Rect.at? (length "refX" .width 0) (length "refY" .height 0) (length "markerWidth" .width 3)
    (length "markerHeight" .height 3)

def strokeScale? (scope : Scope) (marker path : Site) : Option Float32 :=
  if marker.attribute? "markerUnits" = some "userSpaceOnUse" then some 1
  else
    let width := strokeWidth scope path
    if isPositive width then some width else none

def marker? (scope : Scope) (path : Site) (kind : MarkerKind) : Option Site :=
  (scope.index.nearestLinked? path kind.name).filter fun site =>
    site.tag = .marker && !scope.markers.contains site.key

def hasMarkers (scope : Scope) (path : Site) : Bool :=
  !(path.outer.any fun element => element.tag = .clipPath) &&
    [MarkerKind.start, .middle, .stop].any fun kind =>
      (scope.index.nearestLinked? path kind.name).isSome

end Wireframe.Svg
