import Wireframe.Component.Entry
import Wireframe.Component.Kind
import Wireframe.Json.Fault

namespace Wireframe

inductive PropType where
  | string
  | number
  | boolean
  deriving DecidableEq, Repr

namespace PropType

def word : PropType → String
  | .string => "string"
  | .number => "number"
  | .boolean => "boolean"

def all : List PropType := [.string, .number, .boolean]

def expected : PropType → String
  | .string => "a string"
  | .number => "f32"
  | .boolean => "a boolean"

def admits : PropType → Json → Bool
  | _, .null => true
  | .string, .string _ => true
  | .number, .number _ => true
  | .boolean, .bool _ => true
  | _, _ => false

end PropType

def Kind.props : Kind → List (String × PropType)
  | .header | .label =>
      [("text", .string), ("textAlign", .string), ("fontWeight", .string)]
  | .linkText =>
      [("text", .string), ("align", .string), ("textAlign", .string), ("fontWeight", .string)]
  | .button =>
      [("label", .string), ("color", .string), ("icon", .string), ("svgData", .string),
        ("width", .string)]
  | .socialButton =>
      [("provider", .string), ("label", .string), ("icon", .string), ("svgData", .string),
        ("width", .string)]
  | .textField =>
      [("label", .string), ("placeholder", .string), ("icon", .string), ("svgData", .string),
        ("endIcon", .string), ("endSvgData", .string)]
  | .checkbox | .radioButton | .switch =>
      [("label", .string), ("checked", .boolean), ("groupName", .string)]
  | .image =>
      [("width", .number), ("height", .number), ("alt", .string), ("cornerRadius", .number),
        ("fit", .string)]
  | .colorSwatch =>
      [("color", .string), ("size", .number), ("shape", .string), ("selected", .boolean)]
  | .icon => [("icon", .string), ("svgData", .string), ("size", .number), ("color", .string)]
  | .slider => [("value", .number)]
  | .placeholder => [("width", .number), ("height", .number), ("label", .string)]
  | .row => [("spacing", .number), ("alignment", .string), ("justify", .string)]
  | .column => [("spacing", .number), ("alignment", .string)]
  | .card =>
      [("padding", .number), ("spacing", .number), ("backgroundColor", .string),
        ("hasBorder", .boolean), ("hasShadow", .boolean), ("alignment", .string)]

namespace Props

/-- The fault of the first prop, in the order of the object, that is known and of another type. -/
def fault? (known : List (String × PropType)) : List (String × Json) → Option Json.Cause
  | [] => none
  | (name, value) :: rest =>
      match known.lookup name with
      | none => fault? known rest
      | some type =>
          if type.admits value then fault? known rest
          else some (.wrongType (.ofJson value) type.expected)

def string? (props : List (String × Json)) (name : String) : Option String :=
  match props.lookup name with
  | some (.string value) => some value
  | _ => none

def number? (props : List (String × Json)) (name : String) : Option Float32 :=
  match props.lookup name with
  | some (.number value) => some value.toSingle
  | _ => none

def boolean? (props : List (String × Json)) (name : String) : Option Bool :=
  match props.lookup name with
  | some (.bool value) => some value
  | _ => none

end Props

end Wireframe
