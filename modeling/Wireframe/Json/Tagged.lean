import Wireframe.Json.Codec
/-!
Messages with a tag. The tag is the member `type` of an object, wherever it stands, or the first
item of a list; what the rest must hold depends on it. The text of a message is read as a whole
before its fields are looked at, so a fault in a field has no place.
-/

namespace Wireframe.Json

structure Variant (α : Type) where
  tag : String
  decode : Document → Except Fault α

def tagName : String := "type"

def Document.variant {α : Type} (variants : List (Variant α)) : Document → Except Fault (Variant α)
  | .string (.ok name) span =>
      match variants.find? fun variant => variant.tag = name with
      | some variant => .ok variant
      | none => .error ⟨.unknownVariant name (variants.map Variant.tag), span.stop⟩
  | document => .error (document.mismatch "variant identifier")

def splitMembers {α : Type} (variants : List (Variant α)) :
    List (Label × Document) → Option (Variant α) →
      Except Fault (Option (Variant α) × List (String × Json))
  | [], variant => .ok (variant, [])
  | (label, value) :: rest, variant => do
      let key ← label.key
      if key = tagName then
        if variant.isSome then .error ⟨.duplicateField tagName, label.next⟩
        else splitMembers variants rest (some (← value.variant variants))
      else
        let value ← value.toJson
        let (variant, members) ← splitMembers variants rest variant
        .ok (variant, (key, value) :: members)

def Ending.check : Ending → Except Fault Unit
  | .closed _ => .ok ()
  | .broken breach => .error breach.read

def Ending.stop : Ending → Option Place
  | .closed stop => stop
  | .broken _ => none

/-- A tag and what comes with it, the latter without places. -/
def Document.split {α : Type} (kind : String) (variants : List (Variant α)) :
    Document → Except Fault (Variant α × Document)
  | .record opening members ending =>
      match opening.limit with
      | some fault => .error fault
      | none => do
          let (variant, members) ← splitMembers variants members none
          ending.check
          match variant with
          | none => .error ⟨.missingField tagName, ending.stop⟩
          | some variant =>
              .ok (variant, .record ⟨none, none⟩ (Document.ofMembers members) (.closed none))
  | .list opening items ending =>
      match opening.limit, items with
      | some fault, _ => .error fault
      | none, [] => do
          ending.check
          .error ⟨.missingField tagName, ending.stop⟩
      | none, first :: rest => do
          let variant ← first.variant variants
          let items ← rest.mapM Document.toJson
          ending.check
          .ok (variant, Document.ofJson (.array items))
  | document => .error (document.mismatch kind)

def Document.tagged {α : Type} (kind : String) (variants : List (Variant α)) (document : Document) :
    Except Fault α := do
  let (variant, rest) ← document.split kind variants
  variant.decode rest

def Variant.record {α β : Type} (tag kind : String) (fields : List (Field β)) (start : β)
    (make : β → α) : Variant α :=
  ⟨tag, fun document => (document.fields kind fields start).map make⟩

def Variant.unit {α : Type} (tag : String) (value : α) : Variant α :=
  .record tag tag [] () fun _ => value

def tagged (tag : String) (members : List (String × Json)) : Json :=
  .object ((tagName, .string tag) :: members)

end Wireframe.Json
