import Wireframe.Text.Blank

namespace Wireframe.Svg

structure DataLink where
  mediaType : String
  bytes : List Nat
  deriving DecidableEq, Repr

namespace DataLink

def isIgnored (c : Char) : Bool := c = '\t' || c = '\n' || c = '\r'

def isMargin (c : Char) : Bool := c ≤ ' '

def trimMargins (isMargin : Char → Bool) (cs : List Char) : List Char :=
  Text.dropEndWhile isMargin (cs.dropWhile isMargin)

def afterWord? : List Char → List Char → Option (List Char)
  | [], cs => some cs
  | _ :: _, [] => none
  | c :: word, d :: cs =>
      if isIgnored d then afterWord? (c :: word) cs
      else if d.toLower = c then afterWord? word cs
      else none

def atComma? : List Char → Option (List Char × List Char)
  | [] => none
  | c :: cs =>
      if c = ',' then some ([], cs)
      else if c = '#' then none
      else (atComma? cs).map fun (before, after) => (c :: before, after)

def withoutMark? (head : List Char) : Option (List Char) := do
  match (← afterWord? "46esab".toList head.reverse).dropWhile fun c => isIgnored c || c = ' ' with
  | ';' :: before => pure before.reverse
  | _ => none

/-- Characters of the names of media types. Those beyond ASCII count because they are encoded. -/
def isNameChar (c : Char) : Bool :=
  c.isAlphanum || "!#$%&'*+-.^_|~".toList.contains c || c = '\x60' || c < ' ' || '\x7f' ≤ c

def isName (cs : List Char) : Bool := !cs.isEmpty && cs.all isNameChar

def mediaType? (head : List Char) : Option String :=
  match (trimMargins (· = ' ') (head.filter (!isIgnored ·))).span (· ≠ '/') with
  | (kind, _ :: rest) =>
      let name := Text.dropEndWhile (· = ' ') (rest.takeWhile (· ≠ ';'))
      if isName kind && isName name then
        some (Text.lower (String.ofList (kind ++ '/' :: name)))
      else none
  | _ => none

def plainType : String := "text/plain"

def hexValue? (byte : Nat) : Option Nat :=
  if 48 ≤ byte ∧ byte ≤ 57 then some (byte - 48)
  else if 65 ≤ byte ∧ byte ≤ 70 then some (byte - 55)
  else if 97 ≤ byte ∧ byte ≤ 102 then some (byte - 87)
  else none

def hexByte? (high low : Nat) : Option Nat := do
  pure ((← hexValue? high) * 16 + (← hexValue? low))

/-- The bytes of a body without its fragment. A percent sign encodes a byte by two digits; one that
does not brings back `run`, what was read since the last mark, the last byte first. -/
def decoded (run : List Nat) : List Nat → List Nat
  | [] => run.reverse
  | 35 :: _ => run.reverse
  | 37 :: high :: low :: rest =>
      match hexByte? high low with
      | some byte => run.reverse ++ byte :: decoded [] rest
      | none => run.reverse ++ decoded (37 :: run) (high :: low :: rest)
  | byte :: rest =>
      if byte = 37 then run.reverse ++ decoded (byte :: run) rest
      else if byte = 9 ∨ byte = 10 ∨ byte = 13 then run.reverse ++ decoded [] rest
      else decoded (byte :: run) rest

def digit? (byte : Nat) : Option Nat :=
  if 65 ≤ byte ∧ byte ≤ 90 then some (byte - 65)
  else if 97 ≤ byte ∧ byte ≤ 122 then some (byte - 71)
  else if 48 ≤ byte ∧ byte ≤ 57 then some (byte + 4)
  else if byte = 43 then some 62
  else if byte = 47 then some 63
  else none

def isSpaceByte (byte : Nat) : Bool :=
  byte = 32 || byte = 9 || byte = 10 || byte = 12 || byte = 13

def digits? : List Nat → Option (List Nat × Nat)
  | [] => some ([], 0)
  | byte :: rest => do
      let (others, padding) ← digits? rest
      match digit? byte with
      | some digit => pure (digit :: others, padding)
      | none =>
          if isSpaceByte byte then pure (others, padding)
          else if byte = 61 ∧ others.isEmpty then pure (others, padding + 1)
          else none

/-- The bytes of groups of four digits; a last shorter group may be filled up to four. -/
def ofDigits? (padding : Nat) : List Nat → Option (List Nat)
  | a :: b :: c :: d :: rest =>
      (ofDigits? padding rest).map fun bytes =>
        (a * 4 + b / 16) :: (b % 16 * 16 + c / 4) :: (c % 4 * 64 + d) :: bytes
  | [a, b, c] =>
      if padding ≤ 1 then some [a * 4 + b / 16, b % 16 * 16 + c / 4] else none
  | [a, b] => if padding = 0 ∨ padding = 2 then some [a * 4 + b / 16] else none
  | [_] => none
  | [] => if padding = 0 then some [] else none

def ofBase64? (text : List Nat) : Option (List Nat) := do
  let (digits, padding) ← digits? text
  ofDigits? padding digits

def ofText? (link : String) : Option DataLink := do
  let (head, body) ← atComma? (Text.dropEndWhile isMargin
    (← afterWord? "data:".toList (link.toList.dropWhile isMargin)))
  let head := trimMargins (fun c => c = ' ' || isIgnored c) head
  let text := decoded [] ((String.ofList body).toUTF8.toList.map UInt8.toNat)
  let (head, bytes) ← match withoutMark? head with
    | some head => (ofBase64? text).map (head, ·)
    | none => some (head, text)
  if head.head? = some ';' then pure ⟨plainType, bytes⟩
  else pure ⟨(mediaType? head).getD plainType, bytes⟩

end DataLink

end Wireframe.Svg
