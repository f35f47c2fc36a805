import Wireframe.Color.Basic
import Wireframe.Geometry

namespace Wireframe

def constantCase (word : String) : String :=
  String.ofList (word.toList.zipIdx.flatMap fun (c, index) =>
    if c.isUpper && index != 0 then ['_', c] else [c.toUpper])

def constant (word : String) : Json := .string (constantCase word)

/-- The direction in which a container lays out its children; `none` leaves them where they are. -/
inductive Axis where
  | none
  | horizontal
  | vertical
  deriving DecidableEq, Repr

def Axis.word : Axis → String
  | .none => "None"
  | .horizontal => "Horizontal"
  | .vertical => "Vertical"

inductive Sizing where
  | fixed
  | hug
  | fill
  deriving DecidableEq, Repr

def Sizing.word : Sizing → String
  | .fixed => "Fixed"
  | .hug => "Hug"
  | .fill => "Fill"

inductive Alignment where
  | min
  | center
  | max
  deriving DecidableEq, Repr

def Alignment.word : Alignment → String
  | .min => "Min"
  | .center => "Center"
  | .max => "Max"

inductive Distribution where
  | min
  | center
  | max
  | spaceBetween
  deriving DecidableEq, Repr

def Distribution.word : Distribution → String
  | .min => "Min"
  | .center => "Center"
  | .max => "Max"
  | .spaceBetween => "SpaceBetween"

inductive LayoutAlign where
  | inherit
  | stretch
  deriving DecidableEq, Repr

def LayoutAlign.word : LayoutAlign → String
  | .inherit => "Inherit"
  | .stretch => "Stretch"

inductive TextAlign where
  | left
  | center
  | right
  deriving DecidableEq, Repr

def TextAlign.word : TextAlign → String
  | .left => "Left"
  | .center => "Center"
  | .right => "Right"

inductive AutoResize where
  | none
  | height
  | widthAndHeight
  deriving DecidableEq, Repr

def AutoResize.word : AutoResize → String
  | .none => "None"
  | .height => "Height"
  | .widthAndHeight => "WidthAndHeight"

inductive Decoration where
  | none
  | underline
  deriving DecidableEq, Repr

def Decoration.word : Decoration → String
  | .none => "None"
  | .underline => "Underline"

inductive FontStyle where
  | regular
  | medium
  | bold
  deriving DecidableEq, Repr

def FontStyle.word : FontStyle → String
  | .regular => "Regular"
  | .medium => "Medium"
  | .bold => "Bold"

structure FontName where
  family : String
  style : FontStyle
  deriving DecidableEq, Repr

def FontName.text (font : FontName) : String := font.family ++ " " ++ font.style.word

def FontName.toJson (font : FontName) : Json :=
  .object [("family", .string font.family), ("style", .string font.style.word)]

structure GradientStop where
  position : Float32
  color : Color
  deriving DecidableEq

inductive Paint where
  | solid (color : Color)
  | linearGradient (stops : List GradientStop)
  deriving DecidableEq

structure Stroke where
  color : Color
  weight : Float32
  deriving DecidableEq

structure Shadow where
  color : Color
  offset : Point
  radius : Float32
  deriving DecidableEq

def Paint.solid? : Paint → Option Color
  | .solid color => some color
  | .linearGradient _ => none

def GradientStop.toJson (stop : GradientStop) : Json :=
  .object [("position", .single stop.position), ("color", stop.color.toJson)]

def Paint.toJson : Paint → Json
  | .solid color => .object [("type", .string "SOLID"), ("color", color.toJson)]
  | .linearGradient stops =>
      .object [("type", .string "GRADIENT_LINEAR"),
        ("stops", .array (stops.map GradientStop.toJson))]

def Stroke.toJson (stroke : Stroke) : Json :=
  .object [("color", stroke.color.toJson), ("weight", .single stroke.weight)]

def Shadow.toJson (shadow : Shadow) : Json :=
  .object [("color", shadow.color.toJson), ("offset", shadow.offset.toJson),
    ("radius", .single shadow.radius)]

end Wireframe
