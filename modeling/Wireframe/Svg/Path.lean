import Wireframe.Binary.Shortest
import Wireframe.Geometry
/-!
Paths of lines and curves. A pen draws them so that every subpath starts with a move: one that
nothing was drawn from gives way to the next, and one is added where drawing goes on after a close.
-/

namespace Wireframe.Svg

open Binary (singleText)

inductive Segment where
  | move (p : Point)
  | line (p : Point)
  | quad (c p : Point)
  | cubic (c d p : Point)
  | close
  deriving DecidableEq

namespace Segment

def points : Segment → List Point
  | .move p => [p]
  | .line p => [p]
  | .quad c p => [c, p]
  | .cubic c d p => [c, d, p]
  | .close => []

def letter : Segment → String
  | .move _ => "M"
  | .line _ => "L"
  | .quad .. => "Q"
  | .cubic .. => "C"
  | .close => "Z"

def text (segment : Segment) : String :=
  " ".intercalate (segment.letter ::
    segment.points.flatMap fun p => [singleText p.x, singleText p.y])

end Segment

def pathText (path : List Segment) : String := " ".intercalate (path.map Segment.text)

/-- What has been drawn, the last segment first; where the subpath starts; and whether drawing has
to start with a move. -/
structure Pen where
  drawn : List Segment
  start : Point
  lifted : Bool

namespace Pen

def fresh : Pen := ⟨[], .origin, true⟩

def move (p : Point) (pen : Pen) : Pen :=
  match pen.drawn with
  | .move _ :: rest => { pen with drawn := .move p :: rest, start := p }
  | drawn => ⟨.move p :: drawn, p, false⟩

def lower (pen : Pen) : Pen := if pen.lifted then pen.move pen.start else pen

def draw (segment : Segment) (pen : Pen) : Pen :=
  let pen := pen.lower
  { pen with drawn := segment :: pen.drawn }

def close (pen : Pen) : Pen :=
  match pen.drawn with
  | [] | .close :: _ => { pen with lifted := true }
  | drawn => { pen with drawn := .close :: drawn, lifted := true }

def step (pen : Pen) : Segment → Pen
  | .move p => pen.move p
  | .close => pen.close
  | segment => pen.draw segment

end Pen

def widen (range : Float32 × Float32) (x : Float32) : Float32 × Float32 :=
  (Binary.least range.1 x, Binary.greatest range.2 x)

def isBounded : List Float32 → Bool
  | [] => false
  | x :: rest =>
      let (low, high) := rest.foldl widen (x, x)
      (x :: rest).all Float32.isFinite && (high - low).isFinite

/-- Draws segments. A path of one segment, or with points beyond all bounds, is none. -/
def path? (segments : List Segment) : Option (List Segment) :=
  let path := (segments.foldl Pen.step .fresh).drawn.reverse
  let points := path.flatMap Segment.points
  if 2 ≤ path.length && isBounded (points.map Point.x) && isBounded (points.map Point.y) then
    some path
  else none

def boxSize (path : List Segment) : Size :=
  let extent (values : List Float32) : Float32 :=
    match values with
    | [] => 0
    | x :: rest =>
        let (low, high) := rest.foldl widen (x, x)
        high - low
  let points := path.flatMap Segment.points
  ⟨extent (points.map Point.x), extent (points.map Point.y)⟩

end Wireframe.Svg
