import Wireframe.Binary.Format
import Wireframe.Svg.Transform

namespace Wireframe.Svg

structure WidePoint where
  x : Float
  y : Float

namespace WidePoint

def plus (p q : WidePoint) : WidePoint := ⟨p.x + q.x, p.y + q.y⟩

def minus (p q : WidePoint) : WidePoint := ⟨p.x - q.x, p.y - q.y⟩

def times (scale : Float) (p : WidePoint) : WidePoint := ⟨scale * p.x, scale * p.y⟩

def narrow (p : WidePoint) : Point := ⟨Binary.narrow p.x, Binary.narrow p.y⟩

def ofPoint (p : Point) : WidePoint := ⟨Binary.widen p.x, Binary.widen p.y⟩

def angle (p : WidePoint) : Float := Float.atan2 p.y p.x

end WidePoint

structure EndArc where
  start : WidePoint
  stop : WidePoint
  rx : Float
  ry : Float
  rotation : Float
  large : Bool
  sweep : Bool

structure CentreArc where
  centre : WidePoint
  rx : Float
  ry : Float
  startAngle : Float
  sweepAngle : Float
  rotation : Float

namespace EndArc

/-- Whether an arc is a straight line: a radius is next to nothing or its ends are the same. -/
def isStraight (arc : EndArc) : Bool :=
  arc.rx.abs ≤ 1e-5 || arc.ry.abs ≤ 1e-5 ||
    (arc.start.x == arc.stop.x && arc.start.y == arc.stop.y)

/-- The centre and angles of an arc that is not straight. Radii too small for the ends are enlarged.
-/
def centre (arc : EndArc) : CentreArc :=
  let angle := Binary.remainder arc.rotation (2 * pi)
  let sinPhi := angle.sin
  let cosPhi := angle.cos
  let hdx := (arc.start.x - arc.stop.x) * 0.5
  let hdy := (arc.start.y - arc.stop.y) * 0.5
  let hsx := (arc.start.x + arc.stop.x) * 0.5
  let hsy := (arc.start.y + arc.stop.y) * 0.5
  let px := cosPhi * hdx + sinPhi * hdy
  let py := -sinPhi * hdx + cosPhi * hdy
  let rx := arc.rx.abs
  let ry := arc.ry.abs
  let excess := px * px / (rx * rx) + py * py / (ry * ry)
  let scale := if 1 < excess then excess.sqrt else 1
  let rx := rx * scale
  let ry := ry * scale
  let rxry := rx * ry
  let rxpy := rx * py
  let rypx := ry * px
  let squares := rxpy * rxpy + rypx * rypx
  let side : Float := if arc.large = arc.sweep then -1 else 1
  let coefficient := side * ((rxry * rxry - squares) / squares).abs.sqrt
  let cx := coefficient * rxpy / ry
  let cy := -coefficient * rypx / rx
  let startAngle := (⟨(px - cx) / rx, (py - cy) / ry⟩ : WidePoint).angle
  let stopAngle := (⟨(-px - cx) / rx, (-py - cy) / ry⟩ : WidePoint).angle
  let turn := Binary.remainder (stopAngle - startAngle) (2 * pi)
  { centre := ⟨cosPhi * cx - sinPhi * cy + hsx, sinPhi * cx + cosPhi * cy + hsy⟩
    rx
    ry
    startAngle
    sweepAngle :=
      if arc.sweep && turn < 0 then turn + 2 * pi
      else if !arc.sweep && 0 < turn then turn - 2 * pi
      else turn
    rotation := arc.rotation }

end EndArc

namespace CentreArc

def sample (arc : CentreArc) (angle : Float) : WidePoint :=
  let u := arc.rx * angle.cos
  let v := arc.ry * angle.sin
  let sin := arc.rotation.sin
  let cos := arc.rotation.cos
  ⟨u * cos - v * sin, u * sin + v * cos⟩

def tolerance : Float := 0.1

def pieces (arc : CentreArc) : Float :=
  let radius := if arc.rx < arc.ry then arc.ry else arc.rx
  let quarters := Float.pow (1.1163 * (radius / tolerance)) (1 / 6)
  let quarters := if quarters < 3.999999 then 3.999999 else quarters
  (quarters * arc.sweepAngle.abs * (1 / (2 * pi))).ceil

/-- Curves from an angle on, each `step` further, whose control points lie `arm` along the tangents.
-/
def curves (arc : CentreArc) (step arm : Float) :
    Nat → Float → List (WidePoint × WidePoint × WidePoint)
  | 0, _ => []
  | count + 1, angle =>
      let next := angle + step
      let start := arc.sample angle
      let stop := arc.sample next
      let c := start.plus (.times arm (arc.sample (angle + pi / 2)))
      let d := stop.minus (.times arm (arc.sample (next + pi / 2)))
      (arc.centre.plus c, arc.centre.plus d, arc.centre.plus stop) ::
        curves arc step arm count next

def toCurves (arc : CentreArc) : List (WidePoint × WidePoint × WidePoint) :=
  let pieces := arc.pieces
  let step := arc.sweepAngle / pieces
  let side : Float := if arc.sweepAngle < 0 then -1 else 1
  let arm := 4 / 3 * (0.25 * step).abs.tan * side
  curves arc step arm pieces.toUInt64.toNat arc.startAngle

end CentreArc

def EndArc.toCurves (arc : EndArc) : Option (List (WidePoint × WidePoint × WidePoint)) :=
  if arc.isStraight then none else some arc.centre.toCurves

end Wireframe.Svg
