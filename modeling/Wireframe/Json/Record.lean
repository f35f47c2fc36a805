import Wireframe.Json.Document
import Wireframe.Json.Value
/-!
Reading documents into types. A record lists its fields; each tells how its value changes the record
read so far, so fields that are absent keep what the record starts with. A record may also be
written as a list of its fields in order. Faults come in reading order.
-/

namespace Wireframe.Json

namespace Document

def mismatch (expected : String) : Document → Fault
  | .null span => ⟨.wrongType .null expected, span.stop⟩
  | .bool value span => ⟨.wrongType (.bool value) expected, span.stop⟩
  | .number (.ok value) span => ⟨.wrongType (.number value) expected, span.stop⟩
  | .number (.error fault) _ => fault
  | .string (.ok value) span => ⟨.wrongType (.string value) expected, span.stop⟩
  | .string (.error fault) _ => fault
  | .list opening _ _ => ⟨.wrongType .sequence expected, opening.start⟩
  | .record opening _ _ => ⟨.wrongType .map expected, opening.start⟩
  | .broken _ read _ => read

def text : Document → Except Fault String
  | .string value _ => value
  | document => .error (document.mismatch "a string")

def flag : Document → Except Fault Bool
  | .bool value _ => .ok value
  | document => .error (document.mismatch "a boolean")

def single : Document → Except Fault Float32
  | .number value _ => value.map Number.toSingle
  | document => .error (document.mismatch "f32")

def natural (expected : String) : Document → Except Fault Nat
  | .number (.ok (.whole n)) span =>
      if 0 ≤ n then .ok n.toNat else .error ⟨.wrongValue (.number (.whole n)) expected, span.stop⟩
  | document => .error (document.mismatch expected)

def optional {α : Type} (read : Document → Except Fault α) : Document → Except Fault (Option α)
  | .null _ => .ok none
  | document => (read document).map some

mutual

/-- Passes over a document that nobody asked for. -/
def skip : Document → Except Fault Unit
  | .list _ items ending => do
      skipItems items
      match ending with
      | .closed _ => .ok ()
      | .broken breach => .error breach.skip
  | .record _ members ending => do
      skipMembers members
      match ending with
      | .closed _ => .ok ()
      | .broken breach => .error breach.skip
  | .broken _ _ skip => .error skip
  | _ => .ok ()

def skipItems : List Document → Except Fault Unit
  | [] => .ok ()
  | item :: rest => do
      item.skip
      skipItems rest

def skipMembers : List (Label × Document) → Except Fault Unit
  | [] => .ok ()
  | (_, value) :: rest => do
      value.skip
      skipMembers rest

end

mutual

def toJson : Document → Except Fault Json
  | .null _ => .ok .null
  | .bool value _ => .ok (.bool value)
  | .number value _ => value.map .number
  | .string value _ => value.map .string
  | .list opening items ending =>
      match opening.limit with
      | some fault => .error fault
      | none => do
          let items ← itemsToJson items
          match ending with
          | .closed _ => .ok (.array items)
          | .broken breach => .error breach.read
  | .record opening members ending =>
      match opening.limit with
      | some fault => .error fault
      | none => do
          let members ← membersToJson members
          match ending with
          | .closed _ => .ok (.object (Table.ofList members))
          | .broken breach => .error breach.read
  | .broken _ read _ => .error read

def itemsToJson : List Document → Except Fault (List Json)
  | [] => .ok []
  | item :: rest => do
      let item ← item.toJson
      let rest ← itemsToJson rest
      .ok (item :: rest)

def membersToJson : List (Label × Document) → Except Fault (List (String × Json))
  | [] => .ok []
  | (label, value) :: rest => do
      let key ← label.key
      let value ← value.toJson
      let rest ← membersToJson rest
      .ok ((key, value) :: rest)

end

def items {α : Type} (read : Document → Except Fault α) : Document → Except Fault (List α)
  | .list opening items ending =>
      match opening.limit with
      | some fault => .error fault
      | none => do
          let values ← items.mapM read
          match ending with
          | .closed _ => .ok values
          | .broken breach => .error breach.read
  | document => .error (document.mismatch "a sequence")

def entries {α : Type} (read : Document → Except Fault α) :
    Document → Except Fault (List (String × α))
  | .record opening members ending =>
      match opening.limit with
      | some fault => .error fault
      | none => do
          let values ← members.mapM fun (label, value) => do
            let key ← label.key
            let value ← read value
            .ok (key, value)
          match ending with
          | .closed _ => .ok values
          | .broken breach => .error breach.read
  | document => .error (document.mismatch "a map")

/-- The place of the first byte of a document. -/
def look : Document → Option Place
  | .list opening _ _ | .record opening _ _ =>
      opening.start.map fun place => ⟨place.line, place.column + 1⟩
  | .broken look _ _ => look
  | .null span | .bool _ span | .number _ span | .string _ span => span.look

end Document

structure Field (α : Type) where
  name : String
  required : Bool
  write : α → Option Json
  read : Document → α → Except Fault α

def missing? {α : Type} (fields : List (Field α)) (seen : List String) : Option (Field α) :=
  fields.find? fun field => field.required && !seen.contains field.name

def readMembers {α : Type} (fields : List (Field α)) :
    List (Label × Document) → List String → α → Except Fault (List String × α)
  | [], seen, record => .ok (seen, record)
  | (label, value) :: rest, seen, record =>
      match label.key with
      | .error fault => .error fault
      | .ok key =>
          match fields.find? fun field => field.name = key with
          | none =>
              match value.skip with
              | .error fault => .error fault
              | .ok () => readMembers fields rest seen record
          | some field =>
              if seen.contains key then .error ⟨.duplicateField key, label.next⟩
              else
                match field.read value record with
                | .error fault => .error fault
                | .ok record => readMembers fields rest (key :: seen) record

def readItems {α : Type} : List (Field α) → List Document → α →
    Except Fault (List (Field α) × List Document × α)
  | [], items, record => .ok ([], items, record)
  | fields, [], record => .ok (fields, [], record)
  | field :: fields, item :: items, record =>
      match field.read item record with
      | .error fault => .error fault
      | .ok record => readItems fields items record

def elements (count : Nat) : String :=
  toString count ++ (if count = 1 then " element" else " elements")

/-- Reads a record that starts as `record`. Faults call its type `kind`. Items beyond the fields are
a fault of the text, or one of length when the document was not made from a text. -/
def Document.fields {α : Type} (kind : String) (fields : List (Field α)) (record : α) :
    Document → Except Fault α
  | .record opening members ending =>
      match opening.limit with
      | some fault => .error fault
      | none =>
          match readMembers fields members [] record with
          | .error fault => .error fault
          | .ok (seen, record) =>
              match ending with
              | .broken breach => .error breach.read
              | .closed stop =>
                  match missing? fields seen with
                  | some field => .error ⟨.missingField field.name, stop⟩
                  | none => .ok record
  | .list opening items ending =>
      match opening.limit with
      | some fault => .error fault
      | none =>
          match readItems fields items record with
          | .error fault => .error fault
          | .ok (unread, extra, record) =>
              match extra, ending with
              | item :: _, .closed none =>
                  .error ⟨.wrongLength items.length
                    (elements fields.length ++ " in sequence"), item.look⟩
              | item :: _, _ => .error ⟨.trailingCharacters, item.look⟩
              | [], .broken breach =>
                  .error (if unread.isEmpty then breach.close else breach.read)
              | [], .closed stop =>
                  if unread.any Field.required then
                    .error ⟨.wrongLength items.length
                      (kind ++ " with " ++ elements fields.length), stop⟩
                  else .ok record
  | document => .error (document.mismatch kind)

def writeFields {α : Type} (fields : List (Field α)) (record : α) : List (String × Json) :=
  fields.filterMap fun field => (field.write record).map (field.name, ·)

def Reading.run {α : Type} (read : Document → Except Fault α) (reading : Reading) :
    Except Fault α :=
  match read reading.document, reading.trailing with
  | .error fault, _ => .error fault
  | .ok _, some fault => .error fault
  | .ok value, none => .ok value

def readText {α : Type} (read : Document → Except Fault α) (text : String) : Except Fault α :=
  (Reading.ofText text).run read

def ofText (text : String) : Except Fault Json := readText Document.toJson text

end Wireframe.Json
