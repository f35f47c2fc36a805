import Wireframe.Geometry
import Wireframe.Svg.Site

namespace Wireframe.Svg

/-- Which side of the view a percentage is a share of; lengths across take the mean of both. -/
inductive Side where
  | width
  | height
  | across
  deriving DecidableEq, Repr

structure Place where
  site : Site
  view : Size

namespace Place

def attribute? (place : Place) (name : String) : Option String := place.site.attribute? name

def nearest? (place : Place) (name : String) : Option String := place.site.nearest? name

end Place

def LengthUnit.scale (unit : LengthUnit) (x : Float32) : Float32 :=
  match unit with
  | .inch => x * 96
  | .centimetre => x * 96 / 2.54
  | .millimetre => x * 96 / 25.4
  | .point => x * 96 / 72
  | .pica => x * 96 / 6
  | _ => x

def timesPower (product x : Float32) (n : Nat) : Float32 :=
  if n = 0 then product
  else timesPower (if n % 2 = 1 then product * x else product) (x * x) (n / 2)
termination_by n

def stepRatio (steps : Int) : Float32 :=
  let ratio := timesPower 1 1.2 steps.natAbs
  if steps < 0 then 1 / ratio else ratio

def fontSizeIn (around : Float32) (text : String) : Float32 :=
  match Length.ofText? text with
  | some length =>
      let x := Binary.narrow length.number
      match length.unit with
      | .em => x * around
      | .ex => x * around / 2
      | .percent => x * around * 0.01
      | unit => unit.scale x
  | none => around * stepRatio ((fontSizes.lookup text).getD 0)

def fontSize : List Element → Float32
  | [] => 12
  | element :: outer =>
      match element.attribute? "font-size" with
      | some text => fontSizeIn (fontSize outer) text
      | none => fontSize outer

def Length.toUser (place : Place) (side : Side) (length : Length) : Float32 :=
  let x := Binary.narrow length.number
  match length.unit with
  | .em => x * fontSize place.site.lineage
  | .ex => x * fontSize place.site.lineage / 2
  | .percent =>
      let base := match side with
        | .width => place.view.width
        | .height => place.view.height
        | .across =>
            ((place.view.width * place.view.width + place.view.height * place.view.height) / 2).sqrt
      base * x / 100
  | unit => unit.scale x

namespace Place

def length? (place : Place) (side : Side) (name : String) : Option Float32 :=
  ((place.attribute? name).bind Length.ofText?).map (·.toUser place side)

def length (place : Place) (side : Side) (name : String) : Float32 :=
  (place.length? side name).getD 0

end Place

def isPositive (x : Float32) : Bool := 0 < x && x.isFinite

def isZero (x : Float32) : Bool := x == 0 || x.toBits ≤ 4

/-- Whether an attribute names shares of the box of what is drawn, and not the units of the user. -/
def usesBox (value : Option String) (standard : Bool) : Bool :=
  match value with
  | some "objectBoundingBox" => true
  | some "userSpaceOnUse" => false
  | _ => standard

def Place.boxLength (place : Place) (byBox : Bool) (side : Side) (standard : Length)
    (name : String) : Float32 :=
  let length := ((place.attribute? name).bind Length.ofText?).getD standard
  if byBox && length.unit = .percent then Binary.narrow length.number / 100
  else length.toUser place side

end Wireframe.Svg
