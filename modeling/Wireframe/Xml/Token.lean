import Wireframe.Text.Blank
/-!
The markup inside an XML document as tokens: tags, texts, and what is only there for readers. A text
is a list of pieces, since what an entity stands for is known only where the text is used.
-/

namespace Wireframe.Xml

def isChar (c : Char) : Bool :=
  let n := c.toNat
  n == 9 || n == 10 || n == 13 || (32 ≤ n && n ≠ 0xFFFE && n ≠ 0xFFFF)

def isSpace (c : Char) : Bool := c = ' ' || c = '\t' || c = '\n' || c = '\r'

def nameStartRanges : List (Nat × Nat) := [
  (0xC0, 0xD6), (0xD8, 0xF6), (0xF8, 0x2FF), (0x370, 0x37D), (0x37F, 0x1FFF), (0x200C, 0x200D),
  (0x2070, 0x218F), (0x2C00, 0x2FEF), (0x3001, 0xD7FF), (0xF900, 0xFDCF), (0xFDF0, 0xFFFD),
  (0x10000, 0xEFFFF)]

def nameRestRanges : List (Nat × Nat) := [(0xB7, 0xB7), (0x300, 0x36F), (0x203F, 0x2040)]

def inRanges (ranges : List (Nat × Nat)) (c : Char) : Bool :=
  ranges.any fun (low, high) => low ≤ c.toNat && c.toNat ≤ high

def isNameStart (c : Char) : Bool := c.isAlpha || c = '_' || inRanges nameStartRanges c

def isNameChar (c : Char) : Bool :=
  isNameStart c || c.isDigit || c = '-' || c = '.' || inRanges nameRestRanges c

structure RawName where
  qualifier : String
  base : String
  deriving DecidableEq, Repr

/-- A part of a text: a character as written, one that a reference gives by its number or by a name
that is always known, or an entity by its name. -/
inductive Piece where
  | plain (c : Char)
  | escaped (c : Char)
  | entity (name : String)
  deriving DecidableEq, Repr

inductive TagEnd where
  | opened
  | empty
  | cut
  deriving DecidableEq, Repr

inductive Token where
  | startTag (name : RawName) (attributes : List (RawName × List Piece)) (ending : TagEnd)
  | endTag (name : RawName)
  | text (pieces : List Piece)
  | verbatim (content : List Char)
  | aside
  deriving DecidableEq, Repr

def skipSpaces (cs : List Char) : List Char := cs.dropWhile isSpace

def someSpaces? : List Char → Option (List Char)
  | c :: cs => if isSpace c then some (skipSpaces cs) else none
  | [] => none

def upTo? (mark : List Char) : List Char → Option (List Char × List Char)
  | [] => none
  | c :: cs =>
      match Text.after? mark (c :: cs) with
      | some rest => some ([], rest)
      | none => (upTo? mark cs).map fun (before, rest) => (c :: before, rest)

def charsUpTo? (mark : List Char) (cs : List Char) : Option (List Char × List Char) :=
  (upTo? mark cs).filter fun (before, _) => before.all isChar

def isNamePart (cs : List Char) : Bool :=
  match cs with
  | [] => false
  | c :: rest => isNameStart c && rest.all isNameChar

def isWholeName (cs : List Char) : Bool :=
  match cs with
  | [] => false
  | c :: rest =>
      (c = ':' || isNameStart c) && rest.all fun c => c = ':' || isNameChar c

def nameChars (cs : List Char) : List Char × List Char := cs.span fun c => c = ':' || isNameChar c

def wholeName? (cs : List Char) : Option (String × List Char) :=
  let (word, rest) := nameChars cs
  if isWholeName word then some (String.ofList word, rest) else none

def name? (cs : List Char) : Option (RawName × List Char) :=
  let (word, rest) := nameChars cs
  match word.span (· ≠ ':') with
  | (base, []) =>
      if isNamePart base then some (⟨"", String.ofList base⟩, rest) else none
  | (qualifier, _ :: base) =>
      if isNamePart base && (qualifier.isEmpty || isNamePart qualifier) then
        some (⟨String.ofList qualifier, String.ofList base⟩, rest)
      else none

def digitsValue? (base : Nat) (cs : List Char) : Option Nat :=
  if cs.isEmpty then none
  else cs.foldlM (fun value c =>
    let digit :=
      if c.isDigit then c.toNat - 48
      else if 'a' ≤ c ∧ c ≤ 'f' then c.toNat - 87
      else if 'A' ≤ c ∧ c ≤ 'F' then c.toNat - 55
      else 16
    if digit < base then some (value * base + digit) else none) 0

/-- The character of a number of 32 bits. Numbers without a character stand for the sign that
replaces one. -/
def charOfNumber? (n : Nat) : Option Char :=
  let c := if n.isValidChar then Char.ofNat n else '\ufffd'
  if n < Nat.pow 2 32 ∧ isChar c then some c else none

def reference? : List Char → Option Piece
  | '#' :: 'x' :: digits => ((digitsValue? 16 digits).bind charOfNumber?).map .escaped
  | '#' :: digits => ((digitsValue? 10 digits).bind charOfNumber?).map .escaped
  | name =>
      match String.ofList name with
      | "amp" => some (.escaped '&')
      | "lt" => some (.escaped '<')
      | "gt" => some (.escaped '>')
      | "quot" => some (.escaped '"')
      | "apos" => some (.escaped '\'')
      | text => if isWholeName name then some (.entity text) else none

/-- The pieces of a text. Inside a reference, `pending` holds what was read of it. -/
def pieces? : List Char → Option (List Char) → Option (List Piece)
  | [], none => some []
  | [], some _ => none
  | c :: cs, none =>
      if c = '&' then pieces? cs (some []) else (pieces? cs none).map (.plain c :: ·)
  | c :: cs, some pending =>
      if c = ';' then do
        let piece ← reference? pending.reverse
        (pieces? cs none).map (piece :: ·)
      else pieces? cs (some (c :: pending))

def quote? : List Char → Option (Char × List Char)
  | '"' :: cs => some ('"', cs)
  | '\'' :: cs => some ('\'', cs)
  | _ => none

def quoted? (cs : List Char) : Option (List Char × List Char) := do
  let (quote, cs) ← quote? cs
  upTo? [quote] cs

def attribute? (cs : List Char) : Option ((RawName × List Char) × List Char) := do
  let (name, cs) ← name? cs
  match skipSpaces cs with
  | '=' :: cs =>
      let (quote, cs) ← quote? (skipSpaces cs)
      let (value, cs) ← charsUpTo? [quote] cs
      if value.contains '<' then none else pure ((name, value), cs)
  | _ => none

def attributes? : Nat → List Char → Option (List (RawName × List Piece) × TagEnd × List Char)
  | _, [] => some ([], .cut, [])
  | 0, _ :: _ => none
  | fuel + 1, c :: cs =>
      match skipSpaces (c :: cs) with
      | '/' :: '>' :: rest => some ([], .empty, rest)
      | '>' :: rest => some ([], .opened, rest)
      | next =>
          if isSpace c then do
            let ((name, value), rest) ← attribute? next
            let value ← pieces? value none
            let (others, ending, rest) ← attributes? fuel rest
            pure ((name, value) :: others, ending, rest)
          else none

def startTag? (fuel : Nat) (cs : List Char) : Option (Token × List Char) := do
  let (name, rest) ← name? cs
  let (attributes, ending, rest) ← attributes? fuel rest
  pure (.startTag name attributes ending, rest)

def comment? (cs : List Char) : Option (List Char) := do
  let (content, rest) ← charsUpTo? ['-', '-', '>'] cs
  if Text.occursIn ['-', '-'] content || content.getLast? = some '-' then none else pure rest

/-- A processing instruction after its opening mark. One that looks like the declaration of a
document is none. -/
def instruction? (cs : List Char) : Option (List Char) :=
  if (Text.after? "xml ".toList cs).isSome then none
  else do
    let (_, rest) ← wholeName? cs
    let (_, rest) ← charsUpTo? ['?', '>'] rest
    pure rest

def token? (fuel : Nat) : List Char → Option (Token × List Char)
  | '<' :: '!' :: '-' :: '-' :: rest => (comment? rest).map (.aside, ·)
  | '<' :: '!' :: rest => do
      let rest ← Text.after? "[CDATA[".toList rest
      let (content, rest) ← charsUpTo? [']', ']', '>'] rest
      pure (.verbatim content, rest)
  | '<' :: '?' :: rest => (instruction? rest).map (.aside, ·)
  | '<' :: '/' :: rest => do
      let (name, rest) ← name? rest
      match skipSpaces rest with
      | '>' :: rest => pure (.endTag name, rest)
      | _ => none
  | '<' :: rest => startTag? fuel rest
  | cs => do
      let (content, rest) := cs.span (· ≠ '<')
      if Text.occursIn [']', ']', '>'] content || !content.all isChar then none
      else
        let pieces ← pieces? content none
        pure (.text pieces, rest)

def Token.level (level : Nat) : Token → Nat
  | .startTag _ _ .opened => level + 1
  | .endTag _ => level - 1
  | _ => level

/-- The tokens inside so many open elements, up to the tag that closes the outermost or the end of
the text, and the rest. Each token takes a character at least; `fuel` bounds how many there are. -/
def content? : Nat → Nat → List Char → Option (List Token × List Char)
  | _, _, [] => some ([], [])
  | 0, _, _ :: _ => none
  | fuel + 1, level, c :: cs => do
      let (token, rest) ← token? (fuel + 1) (c :: cs)
      let level := token.level level
      if level = 0 then pure ([token], rest)
      else
        let (others, rest) ← content? fuel level rest
        pure (token :: others, rest)

def Token.isStart : Token → Bool
  | .startTag .. => true
  | _ => false

def Token.isEnd : Token → Bool
  | .endTag _ => true
  | _ => false

/-- The tokens of what an entity stands for. It may close the element that it stands in, but only
after a start tag of its own. -/
def fragment? (cs : List Char) : Option (List Token) := do
  let (tokens, _) ← content? (cs.length + 1) 1 cs
  if tokens.any Token.isEnd && !tokens.any Token.isStart then none else pure tokens

end Wireframe.Xml
