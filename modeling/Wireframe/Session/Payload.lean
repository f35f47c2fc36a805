import Wireframe.Json.Codec
/-!
What a session is asked to render: a tree, or the text of one as a language model writes it, perhaps
inside a Markdown code fence.
-/

namespace Wireframe

inductive Payload where
  | text (source : String)
  | tree (value : Json)

namespace Payload

def ofJson : Json → Payload
  | .string source => .text source
  | value => .tree value

def toJson : Payload → Json
  | .text source => .string source
  | .tree value => value

/-- Reads a document as a whole, then as the first of the types of a payload that fits: a string, or
any value. -/
def ofDocument (document : Json.Document) : Except Json.Fault Payload := do
  let content := Json.Document.ofJson (← document.toJson)
  match content.text with
  | .ok source => .ok (.text source)
  | .error _ => content.toJson.map .tree

def codec : Json.Codec Payload := ⟨toJson, ofDocument⟩

def fence : List Char := ['\x60', '\x60', '\x60']

def fenceTag : List Char := "json".toList

def dropStart (start cs : List Char) : List Char := (Text.after? start cs).getD cs

def dropStop (stop cs : List Char) : List Char := (dropStart stop.reverse cs.reverse).reverse

/-- The body of a code block, or the whole text when it is none; blanks around it do not count. -/
def unfencedChars (cs : List Char) : List Char :=
  let cs := Text.trimChars cs
  match Text.after? fence cs with
  | none => cs
  | some body => Text.trimChars (dropStop fence (dropStart fenceTag body))

def unfenced (text : String) : String := String.ofList (unfencedChars text.toList)

def toTree : Payload → Except Json.Fault Json
  | .text source => Json.ofText (unfenced source)
  | .tree value => .ok value

end Payload

end Wireframe
