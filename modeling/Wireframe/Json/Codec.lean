import Wireframe.Json.Record
import Wireframe.Json.Printer

namespace Wireframe.Json

structure Codec (α : Type) where
  encode : α → Json
  decode : Document → Except Fault α

namespace Codec

variable {α β : Type}

def text : Codec String := ⟨.string, Document.text⟩

def flag : Codec Bool := ⟨.bool, Document.flag⟩

def single : Codec Float32 := ⟨Json.single, Document.single⟩

def natural (expected : String) : Codec Nat := ⟨fun n => .int n, Document.natural expected⟩

def json : Codec Json := ⟨id, Document.toJson⟩

def list (codec : Codec α) : Codec (List α) :=
  ⟨fun items => .array (items.map codec.encode), Document.items codec.decode⟩

def table (codec : Codec α) : Codec (List (String × α)) where
  encode entries := .object (entries.map fun (key, value) => (key, codec.encode value))
  decode document := (document.entries codec.decode).map Table.ofList

def record (kind : String) (fields : List (Field α)) (record : α) : Codec α where
  encode value := .object (writeFields fields value)
  decode document := document.fields kind fields record

def ofText (codec : Codec α) (text : String) : Except Fault α := readText codec.decode text

end Codec

namespace Field

variable {α β : Type}

def must (name : String) (codec : Codec β) (get : α → β) (set : β → α → α) : Field α :=
  ⟨name, true, fun record => some (codec.encode (get record)),
    fun document record => (codec.decode document).map (set · record)⟩

def may (name : String) (codec : Codec β) (get : α → β) (set : β → α → α) : Field α :=
  { must name codec get set with required := false }

/-- A field that may have no value; then it is not written. -/
def optional (name : String) (codec : Codec β) (get : α → Option β) (set : Option β → α → α) :
    Field α :=
  ⟨name, false, fun record => (get record).map codec.encode,
    fun document record => (document.optional codec.decode).map (set · record)⟩

end Field

end Wireframe.Json
