import Wireframe.Binary.Shortest
import Wireframe.Text.Blank
/-!
JSON values. Numbers keep what they were made from: an integer of 64 bits, or a binary number of 32
or 64 bits. An object is a list of members; those that are read are tables, whose keys are distinct
and ascend.
-/

namespace Wireframe

namespace Json

inductive Number where
  | whole (n : Int)
  | single (x : Float32)
  | double (x : Float)
  deriving DecidableEq

def Number.toSingle : Number → Float32
  | .whole n => Binary.singleOfInt n
  | .single x => x
  | .double x => Binary.narrow x

def Number.toDouble : Number → Float
  | .whole n => Binary.doubleOfInt n
  | .single x => Binary.widen x
  | .double x => x

/-- The decimal text of a number; one that is not finite has none and is written as `null`. -/
def Number.text : Number → String
  | .whole n => toString n
  | .single x => Binary.singleData.datum Binary.single (Binary.decodeSingle x)
  | .double x => Binary.doubleData.datum Binary.double (Binary.decodeDouble x)

end Json

inductive Json where
  | null
  | bool (value : Bool)
  | number (value : Json.Number)
  | string (value : String)
  | array (items : List Json)
  | object (members : List (String × Json))

namespace Json

instance : Inhabited Json := ⟨.null⟩

def member? (key : String) : Json → Option Json
  | .object members => members.lookup key
  | _ => none

def string? : Json → Option String
  | .string value => some value
  | _ => none

def array? : Json → Option (List Json)
  | .array items => some items
  | _ => none

def object? : Json → Option (List (String × Json))
  | .object members => some members
  | _ => none

def number? : Json → Option Number
  | .number value => some value
  | _ => none

def typeName : Json → String
  | .null => "null"
  | .bool _ => "boolean"
  | .number _ => "number"
  | .string _ => "string"
  | .array _ => "array"
  | .object _ => "object"

def int (n : Int) : Json := .number (.whole n)

def single (x : Float32) : Json := .number (.single x)

def double (x : Float) : Json := .number (.double x)

def strings (items : List String) : Json := .array (items.map .string)

end Json

end Wireframe

namespace Wireframe.Table

variable {α : Type}

def insert (key : String) (value : α) : List (String × α) → List (String × α)
  | [] => [(key, value)]
  | (other, old) :: rest =>
      if key = other then (key, value) :: rest
      else if Text.precedes key.toList other.toList then (key, value) :: (other, old) :: rest
      else (other, old) :: insert key value rest

/-- The table of a list in which a key may recur; the last value counts. -/
def ofList (entries : List (String × α)) : List (String × α) :=
  entries.foldl (fun table (key, value) => insert key value table) []

end Wireframe.Table
