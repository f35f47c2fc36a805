import Wireframe.Component.Props
import Wireframe.Json.Codec
/-!
Catalogs describe kinds of component: their props with types, choices and defaults. A catalog serves
whoever writes trees, and gives a renderer some of its defaults; it does not decide which trees are
valid.
-/

namespace Wireframe

open Json (Codec)

namespace PropType

def endOfName (span : Json.Span) (rest : List (Json.Label × Json.Document)) (ending : Json.Ending) :
    Except Json.Fault Unit :=
  let unexpected : Json.Fault := ⟨.expectedValue, span.next⟩
  match rest, ending with
  | [], .closed _ => .ok ()
  | [], .broken breach =>
      .error (if breach.close.cause = .endInObject then breach.close else unexpected)
  | _ :: _, _ => .error unexpected

/-- Types by their names. In a text a type may also be an object of its name and `null`. -/
def ofDocument (document : Json.Document) : Except Json.Fault PropType :=
  let named (name : String) (place : Option Json.Place) : Except Json.Fault PropType :=
    match all.find? fun type => type.word = name with
    | some type => .ok type
    | none => .error ⟨.unknownVariant name (all.map word), place⟩
  match document with
  | .string (.ok name) span => named name span.stop
  | .string (.error fault) _ => .error fault
  | .record _ [] (.closed stop) => .error ⟨.expectedValue, stop⟩
  | .record _ [] (.broken breach) =>
      .error (if breach.read.cause = .endInObject then ⟨.endInValue, breach.read.place⟩
        else breach.read)
  | .record _ ((label, value) :: rest) ending => do
      let type ← named (← label.key) label.stop
      match value with
      | .null span => (endOfName span rest ending).map fun _ => type
      | other => .error (other.mismatch "unit")
  | .broken _ read _ => .error read
  | other => .error ⟨.expectedValue, other.look⟩

def codec : Codec PropType := ⟨fun type => .string type.word, ofDocument⟩

end PropType

structure PropSpec where
  name : String
  type : PropType
  description : String
  options : Option (List String)
  required : Bool
  default : Option Json

namespace PropSpec

def ofType (type : PropType) (name description : String) : PropSpec :=
  { name, type, description, options := none, required := false, default := none }

def string : String → String → PropSpec := ofType .string

def number : String → String → PropSpec := ofType .number

def boolean : String → String → PropSpec := ofType .boolean

def withOptions (options : List String) (spec : PropSpec) : PropSpec :=
  { spec with options := some options }

def asRequired (spec : PropSpec) : PropSpec := { spec with required := true }

def withDefault (value : Json) (spec : PropSpec) : PropSpec := { spec with default := some value }

def fields : List (Json.Field PropSpec) := [
  .must "name" .text name fun s spec => { spec with name := s },
  .must "type" PropType.codec type fun t spec => { spec with type := t },
  .must "description" .text description fun s spec => { spec with description := s },
  .optional "options" (.list .text) options fun o spec => { spec with options := o },
  .may "required" .flag required fun b spec => { spec with required := b },
  .optional "default" .json default fun v spec => { spec with default := v }]

def codec : Codec PropSpec := .record "struct PropSpec" fields (ofType .string "" "")

end PropSpec

structure ComponentSpec where
  name : String
  description : String
  props : List PropSpec
  children : Bool

namespace ComponentSpec

def ofKind (kind : Kind) (description : String) (props : List PropSpec) : ComponentSpec :=
  ⟨kind.tag, description, props, kind.nests⟩

def prop? (spec : ComponentSpec) (name : String) : Option PropSpec :=
  spec.props.find? fun prop => prop.name = name

def fields : List (Json.Field ComponentSpec) := [
  .must "name" .text name fun s spec => { spec with name := s },
  .must "description" .text description fun s spec => { spec with description := s },
  .must "props" (.list PropSpec.codec) props fun p spec => { spec with props := p },
  .may "children" .flag children fun b spec => { spec with children := b }]

def codec : Codec ComponentSpec := .record "struct ComponentSpec" fields ⟨"", "", [], false⟩

end ComponentSpec

abbrev Catalog := List ComponentSpec

namespace Catalog

def codec : Codec Catalog := .list ComponentSpec.codec

def toJson (catalog : Catalog) : Json := codec.encode catalog

def ofText (text : String) : Except Json.Fault Catalog := codec.ofText text

def component? (catalog : Catalog) (name : String) : Option ComponentSpec :=
  catalog.find? fun spec => spec.name = name

def default? (catalog : Catalog) (component prop : String) : Option Json :=
  ((catalog.component? component).bind (·.prop? prop)).bind PropSpec.default

def string? (catalog : Catalog) (kind : Kind) (prop : String) : Option String :=
  (catalog.default? kind.tag prop).bind Json.string?

/-- The default of a prop if it is a number, rounded to 64 and then to 32 bits. -/
def number? (catalog : Catalog) (kind : Kind) (prop : String) : Option Float32 :=
  ((catalog.default? kind.tag prop).bind Json.number?).map fun n => Binary.narrow n.toDouble

def plain : Json → String
  | .string value => value
  | value => value.compact

private def inQuotes (s : String) : String := "\"" ++ s ++ "\""

def remark (spec : PropSpec) : String :=
  if spec.required then ""
  else match spec.default with
    | some value => " (optional, default: " ++ plain value ++ ")"
    | none => " (optional)"

def choices : Option (List String) → String
  | some options => " (" ++ " | ".intercalate (options.map inQuotes) ++ ")"
  | none => ""

def propLine (spec : PropSpec) : String :=
  "      " ++ inQuotes spec.name ++ ": " ++ spec.type.word ++ choices spec.options ++ " // " ++
    spec.description ++ remark spec

def childrenLine : String :=
  "      \"children\": [ ... (Array of component objects as defined in this schema) ... ] // " ++
    "Nested components"

/-- Items below each other as `write` gives them. A comma follows each but the last of them, and
that one too if more is to come. -/
def commaLines {α : Type} (write : α → String) (more : Bool) (items : List α) : String :=
  String.join <| items.mapIdx fun index item =>
    write item ++ (if index + 1 < items.length || more then "," else "") ++ "\n"

def block (spec : ComponentSpec) : String :=
  "  \x7b\n    \"component\": " ++ inQuotes spec.name ++ ", // " ++ spec.description ++ "\n" ++
    "    \"props\": \x7b\n" ++ commaLines propLine spec.children spec.props ++
    (if spec.children then childrenLine ++ "\n" else "") ++ "    \x7d\n  \x7d"

def describe (catalog : Catalog) : String :=
  "[\n" ++ commaLines block false catalog ++ "]"

end Catalog

end Wireframe
