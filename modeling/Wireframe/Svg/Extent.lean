import Wireframe.Svg.Viewport

namespace Wireframe.Svg

def unitQuotient? (numerator denominator : Float32) : Option Float32 :=
  let (n, d) := if numerator < 0 then (-numerator, -denominator) else (numerator, denominator)
  if d == 0 || n == 0 || d ≤ n then none
  else
    let t := n / d
    if 0 < t && t < 1 then some t else none

def unitRoots (a b c : Float32) : List Float32 :=
  if a == 0 then (unitQuotient? (-c) b).toList
  else
    let wide := Binary.widen
    let discriminant := wide b * wide b - 4 * wide a * wide c
    if discriminant < 0 then []
    else
      let root := Binary.narrow discriminant.sqrt
      if !root.isFinite then []
      else
        let q := if b < 0 then -(b - root) / 2 else -(b + root) / 2
        match unitQuotient? q a, unitQuotient? c q with
        | some s, some t => if t < s then [t, s] else if s == t then [s] else [s, t]
        | some s, none => [s]
        | none, some t => [t]
        | none, none => []

def cubicTurns (a b c d : Float32) : List Float32 :=
  unitRoots (d - a + 3 * (b - c)) (2 * (a - b - b + c)) (b - a)

def quadTurns (a b c : Float32) : List Float32 :=
  (unitQuotient? (a - b) (a - b - b + c)).toList

def cubicAt (a b c d t : Float32) : Float32 :=
  let three : Float32 := 3
  (((d + three * (b - c) - a) * t + three * (c - (b + b) + a)) * t + three * (b - a)) * t + a

def quadAt (a b c t : Float32) : Float32 :=
  ((c - (b + b) + a) * t + ((b - a) + (b - a))) * t + a

def Segment.extremes (start : Point) : Segment → List Point
  | .move p => [p]
  | .line p => [p]
  | .quad c p =>
      let turns := quadTurns start.x c.x p.x ++ quadTurns start.y c.y p.y
      turns.map (fun t => ⟨quadAt start.x c.x p.x t, quadAt start.y c.y p.y t⟩) ++ [p]
  | .cubic c d p =>
      let turns := cubicTurns start.x c.x d.x p.x ++ cubicTurns start.y c.y d.y p.y
      turns.map (fun t => ⟨cubicAt start.x c.x d.x p.x t, cubicAt start.y c.y d.y p.y t⟩) ++ [p]
  | .close => []

/-- The points that the extent of a path depends on; `first` is where its subpath starts. -/
def extremes : List Segment → (first last : Point) → List Point
  | [], _, _ => []
  | segment :: rest, first, last =>
      segment.extremes last ++
        match segment with
        | .move p => extremes rest p p
        | .close => extremes rest first first
        | other => extremes rest first (other.points.getLast?.getD last)

def Segment.map (change : Point → Point) : Segment → Segment
  | .move p => .move (change p)
  | .line p => .line (change p)
  | .quad c p => .quad (change c) (change p)
  | .cubic c d p => .cubic (change c) (change d) (change p)
  | .close => .close

def extent? (path : List Segment) : Option Rect :=
  let points := extremes path .origin .origin
  if isBounded (points.map Point.x) && isBounded (points.map Point.y) then
    Rect.around? (points.map fun p => ⟨p.x, p.y, p.x, p.y⟩)
  else none

/-- The box around a transformed path that has a box. Only where the axes are skewed does the path
itself matter. -/
def reach? (transform : Matrix) (path : List Segment) (box : Rect) : Option Rect :=
  if transform.isSkewed then extent? (path.map (Segment.map transform.apply))
  else box.transform? transform

end Wireframe.Svg
