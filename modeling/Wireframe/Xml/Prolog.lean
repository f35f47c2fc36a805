import Wireframe.Xml.Token

namespace Wireframe.Xml

abbrev Entities := List (String × List Char)

def misc : Nat → List Char → Option (List Char)
  | 0, _ => none
  | fuel + 1, cs =>
      match skipSpaces cs with
      | '<' :: '!' :: '-' :: '-' :: rest => (comment? rest).bind (misc fuel)
      | '<' :: '?' :: rest => (instruction? rest).bind (misc fuel)
      | rest => some rest

def declarationGap? (cs : List Char) : Option (List Char) :=
  if (Text.after? ['?', '>'] cs).isSome then some cs else someSpaces? cs

def declarationPart? (name : String) (cs : List Char) : Option (List Char) :=
  if (Text.after? name.toList cs).isNone then some cs
  else (attribute? cs).map Prod.snd

def declaration? (cs : List Char) : Option (List Char) :=
  match Text.after? "<?xml ".toList cs with
  | none => some cs
  | some rest => do
      let start := skipSpaces rest
      if (Text.after? "version".toList start).isNone then none
      else
        let rest ← (declarationPart? "version" start).bind declarationGap?
        let rest ← if (Text.after? "encoding".toList rest).isSome then
            (declarationPart? "encoding" rest).bind declarationGap?
          else some rest
        let rest ← declarationPart? "standalone" rest
        Text.after? ['?', '>'] (skipSpaces rest)

def externalId? (cs : List Char) : Option (Bool × List Char) :=
  match Text.after? "SYSTEM".toList cs, Text.after? "PUBLIC".toList cs with
  | some rest, _ => do
      let (_, rest) ← quoted? (← someSpaces? rest)
      pure (true, rest)
  | none, some rest => do
      let (_, rest) ← quoted? (← someSpaces? rest)
      let (_, rest) ← quoted? (← someSpaces? rest)
      pure (true, rest)
  | none, none => some (false, cs)

def notated? (cs : List Char) : Option (List Char) :=
  match Text.after? "NDATA".toList (skipSpaces cs) with
  | some rest => do
      let (_, rest) ← wholeName? (← someSpaces? rest)
      pure rest
  | none => some cs

/-- What an entity stands for; those of other documents stand for nothing. -/
def definition? (general : Bool) (cs : List Char) : Option (Option (List Char) × List Char) :=
  match quoted? cs with
  | some (value, rest) => some (some value, rest)
  | none => do
      let (isExternal, rest) ← externalId? cs
      if !isExternal then none
      else
        let rest ← if general then notated? rest else some rest
        pure (none, rest)

def entity? (cs : List Char) : Option (Entities × List Char) := do
  let cs ← someSpaces? cs
  let (general, cs) ← match cs with
    | '%' :: cs => (someSpaces? cs).map (false, ·)
    | cs => some (true, cs)
  let (name, rest) ← wholeName? cs
  let (value, rest) ← definition? general (← someSpaces? rest)
  match skipSpaces rest with
  | '>' :: rest => pure (value.toList.map (name, ·), rest)
  | _ => none

def afterAny? (starts : List String) (cs : List Char) : Option (List Char) :=
  starts.findSome? fun start => Text.after? start.toList cs

/-- The declarations inside a document type, up to the bracket that closes them. -/
def declarations? : Nat → List Char → Option (Entities × List Char)
  | 0, _ => none
  | fuel + 1, cs =>
      match skipSpaces cs with
      | ']' :: rest =>
          match skipSpaces rest with
          | '>' :: rest => some ([], rest)
          | _ => none
      | '<' :: '!' :: '-' :: '-' :: rest => (comment? rest).bind (declarations? fuel)
      | '<' :: '?' :: rest => (instruction? rest).bind (declarations? fuel)
      | rest =>
          match Text.after? "<!ENTITY".toList rest with
          | some rest => do
              let (declared, rest) ← entity? rest
              let (others, rest) ← declarations? fuel rest
              pure (declared ++ others, rest)
          | none => do
              let rest ← afterAny? ["<!ELEMENT", "<!ATTLIST", "<!NOTATION"] rest
              let (_, rest) ← upTo? ['>'] rest
              declarations? fuel rest

def documentType? (cs : List Char) : Option (Entities × List Char) :=
  match Text.after? "<!DOCTYPE".toList cs with
  | none => some ([], cs)
  | some rest => do
      let (_, rest) ← wholeName? (← someSpaces? rest)
      let (_, rest) ← externalId? (skipSpaces rest)
      match skipSpaces rest with
      | '>' :: rest => pure ([], rest)
      | '[' :: rest => declarations? (rest.length + 1) rest
      | _ => none

def tokens? (text : String) : Option (Entities × List Token) := do
  let cs := match text.toList with
    | '\ufeff' :: rest => rest
    | cs => cs
  let fuel := cs.length + 1
  let rest ← (declaration? cs).bind (misc fuel)
  let (entities, rest) ← documentType? rest
  match ← misc fuel rest with
  | '<' :: rest =>
      let (start, rest) ← startTag? fuel rest
      let level := start.level 0
      let (inside, rest) ← if level = 0 then some ([], rest) else content? fuel level rest
      match ← misc fuel rest with
      | [] => pure (entities, start :: inside)
      | _ => none
  | _ => none

end Wireframe.Xml
