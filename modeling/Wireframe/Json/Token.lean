import Wireframe.Json.Fault
/-!
The tokens of a JSON text with their places. Columns count bytes. A malformed word, number or string
is a token too: it holds the fault met by whoever reads it and the one met by whoever skips it,
since skipping looks at less of it.
-/

namespace Wireframe.Json

def Place.byte (place : Place) (c : Char) : Place :=
  if c = '\n' then ⟨place.line + 1, 0⟩ else ⟨place.line, place.column + 1⟩

def Place.step (place : Place) (c : Char) : Place :=
  if c = '\n' then ⟨place.line + 1, 0⟩ else ⟨place.line, place.column + c.utf8Size⟩

/-- The place that a fault has when the next byte is looked at but not taken. -/
def Place.look (place : Place) : List Char → Place
  | [] => place
  | c :: _ => place.byte c

def Place.after (place : Place) (cs : List Char) : Place := cs.foldl Place.step place

def Place.bytes (place : Place) : Nat → List Char → Place
  | 0, _ => place
  | _, [] => place
  | count, c :: cs =>
      if c.utf8Size ≤ count then (place.step c).bytes (count - c.utf8Size) cs
      else ⟨place.line, place.column + count⟩
  termination_by _ cs => cs.length

inductive Token where
  | openList
  | closeList
  | openObject
  | closeObject
  | comma
  | colon
  | null
  | bool (value : Bool)
  | number (value : Except Fault Number)
  | string (value : Except Fault String)
  | broken (read skip : Fault)
  | brokenString (read skip : Fault)
  | stray

/-- A token, where it starts, where a fault at its first byte is, and where it ends. -/
structure Lexeme where
  token : Token
  start : Place
  look : Place
  stop : Place

/-- What scanning a word, number or string comes to: a token, its end and the text that is left, or
nothing that could be gone on from. -/
inductive Scan where
  | token (token : Token) (stop : Place) (rest : List Char)
  | broken (read skip : Fault)

private def fault (cause : Cause) (place : Place) : Fault := ⟨cause, some place⟩

def Scan.both (cause : Cause) (place : Place) : Scan :=
  .broken (fault cause place) (fault cause place)

def scanWord (token : Token) : List Char → Place → List Char → Scan
  | [], place, cs => .token token place cs
  | _ :: _, place, [] => .both .endInValue place
  | w :: ws, place, c :: cs =>
      if w = c then scanWord token ws (place.step c) cs else .both .expectedWord (place.byte c)

def digitValue (c : Char) : Nat := c.toNat - 48

/-- The greatest significand that is kept; further digits only count. -/
def significandLimit : Nat := Nat.pow 2 64 - 1

/-- Takes digits into a significand until the next one would not fit; gives the digits left over. -/
def absorb (significand : Nat) : List Char → Nat × List Char
  | [] => (significand, [])
  | c :: cs =>
      let next := significand * 10 + digitValue c
      if significandLimit < next then (significand, c :: cs) else absorb next cs

def scale : Nat → Float → Int → Option Float
  | 0, x, _ => some x
  | fuel + 1, x, exponent =>
      if exponent.natAbs ≤ 308 then
        let power := Binary.doubleOfDecimal false 1 exponent.natAbs
        if 0 ≤ exponent then
          let scaled := x * power
          if scaled.isInf then none else some scaled
        else some (x / power)
      else if x == 0 then some x
      else if 0 ≤ exponent then none
      else scale fuel (x / Binary.doubleOfDecimal false 1 308) (exponent + 308)

structure Numeral where
  negative : Bool
  whole : List Char
  fraction : Option (List Char)
  exponent : Option (Bool × List Char)

def exponentValue : Nat → Nat → List Char → Except Nat Nat
  | value, _, [] => .ok value
  | value, taken, c :: cs =>
      let next := value * 10 + digitValue c
      if next < Nat.pow 2 31 then exponentValue next (taken + 1) cs else .error (taken + 1)

private def signed (negative : Bool) (x : Float) : Float := if negative then -x else x

/-- The value of a numeral. An integer is kept when it has 64 bits; any other number is a
significand scaled by a power of ten, one rounding for each. The error tells how many digits of the
exponent were taken, or that all of the numeral was. -/
def Numeral.value (numeral : Numeral) : Except (Option Nat) Number :=
  let (significand, dropped) := absorb 0 numeral.whole
  match numeral.fraction, numeral.exponent, dropped with
  | none, none, [] =>
      if !numeral.negative then .ok (.whole significand)
      else if significand = 0 ∨ Nat.pow 2 63 < significand then
        .ok (.double (-Binary.doubleOfInt significand))
      else .ok (.whole (-significand))
  | fraction, exponent, dropped =>
      let digits := fraction.getD []
      let (significand, ignored) := absorb significand digits
      let base : Int := dropped.length - (digits.length - ignored.length : Nat)
      let finish (e : Int) : Except (Option Nat) Number :=
        match scale 4 (Binary.doubleOfInt significand) e with
        | some x => .ok (.double (signed numeral.negative x))
        | none => .error none
      match exponent with
      | none => finish base
      | some (negative, digits) =>
          match exponentValue 0 0 digits with
          | .ok e => finish (if negative then base - e else base + e)
          | .error taken =>
              if significand ≠ 0 ∧ !negative then .error (some taken)
              else .ok (.double (signed numeral.negative 0))

def isDigit (c : Char) : Bool := '0' ≤ c && c ≤ '9'

def advance (place : Place) (count : Nat) : Place := ⟨place.line, place.column + count⟩

def finishNumber (numeral : Numeral) (exponentPlace stop : Place) (rest : List Char) :
    Scan :=
  let value := match numeral.value with
    | .ok n => .ok n
    | .error none => .error (fault .numberOutOfRange stop)
    | .error (some taken) => .error (fault .numberOutOfRange (advance exponentPlace taken))
  .token (.number value) stop rest

def scanExponent (numeral : Numeral) (place : Place) : List Char → Scan
  | c :: cs =>
      if c = 'e' ∨ c = 'E' then
        let (negative, place, cs) := match cs with
          | '+' :: r => (false, advance place 2, r)
          | '-' :: r => (true, advance place 2, r)
          | r => (false, advance place 1, r)
        match cs with
        | [] => .broken (fault .endInValue place) (fault .invalidNumber place)
        | d :: _ =>
            if isDigit d then
              let digits := cs.takeWhile isDigit
              finishNumber { numeral with exponent := some (negative, digits) } place
                (advance place digits.length) (cs.dropWhile isDigit)
            else .both .invalidNumber (place.byte d)
      else finishNumber numeral place place (c :: cs)
  | [] => finishNumber numeral place place []

def scanFraction (numeral : Numeral) (place : Place) : List Char → Scan
  | '.' :: cs =>
      let place := advance place 1
      let digits := cs.takeWhile isDigit
      if digits.isEmpty then
        .broken (fault (if cs.isEmpty then .endInValue else .invalidNumber) (place.look cs))
          (fault .invalidNumber (place.look cs))
      else
        scanExponent { numeral with fraction := some digits } (advance place digits.length)
          (cs.dropWhile isDigit)
  | cs => scanExponent numeral place cs

def scanNumber (negative : Bool) (place : Place) : List Char → Scan
  | [] => .broken (fault .endInValue place) (fault .invalidNumber place)
  | c :: cs =>
      if c = '0' then
        let place := advance place 1
        match cs with
        | d :: _ =>
            if isDigit d then .both .invalidNumber (place.look cs)
            else scanFraction ⟨negative, [c], none, none⟩ place cs
        | [] => scanFraction ⟨negative, [c], none, none⟩ place []
      else if isDigit c then
        let digits := c :: cs.takeWhile isDigit
        scanFraction ⟨negative, digits, none, none⟩ (advance place digits.length)
          (cs.dropWhile isDigit)
      else .both .invalidNumber (place.byte c)

def hexValue? (c : Char) : Option Nat :=
  if isDigit c then some (c.toNat - 48)
  else if 'a' ≤ c ∧ c ≤ 'f' then some (c.toNat - 87)
  else if 'A' ≤ c ∧ c ≤ 'F' then some (c.toNat - 55)
  else none

def fourHex (place : Place) (cs : List Char) : Except Fault Nat :=
  match cs with
  | a :: b :: c :: d :: _ =>
      match hexValue? a, hexValue? b, hexValue? c, hexValue? d with
      | some a, some b, some c, some d => .ok (((a * 16 + b) * 16 + c) * 16 + d)
      | _, _, _, _ => .error (fault .invalidEscape (place.bytes 4 cs))
  | cs =>
      if cs.foldr (fun c size => c.utf8Size + size) 0 < 4 then
        .error (fault .endInString (place.after cs))
      else .error (fault .invalidEscape (place.bytes 4 cs))

private def isHighSurrogate (n : Nat) : Bool := 0xD800 ≤ n && n ≤ 0xDBFF

private def isLowSurrogate (n : Nat) : Bool := 0xDC00 ≤ n && n ≤ 0xDFFF

/-- What an escape of value `n` stands for, with the text that follows it: the character and how
many characters of that text belong to it, or the fault of a surrogate without its partner. -/
def escapedChar (n : Nat) (place : Place) (rest : List Char) : Except Fault (Char × Nat) :=
  if isLowSurrogate n then .error (fault .loneSurrogate place)
  else if isHighSurrogate n then
    match rest with
    | [] => .error (fault .endInString place)
    | '\\' :: 'u' :: cs =>
        match fourHex (advance place 2) cs with
        | .error f => .error f
        | .ok low =>
            if isLowSurrogate low then
              .ok (Char.ofNat ((n - 0xD800) * 1024 + (low - 0xDC00) + 0x10000), 6)
            else .error (fault .loneSurrogate (advance place 6))
    | ['\\'] => .error (fault .endInString (advance place 1))
    | '\\' :: c :: _ => .error (fault .brokenSurrogatePair ((advance place 1).byte c))
    | c :: _ => .error (fault .brokenSurrogatePair (place.byte c))
  else .ok (Char.ofNat n, 0)

def shortEscape? : Char → Option Char
  | '"' => some '"'
  | '\\' => some '\\'
  | '/' => some '/'
  | 'b' => some '\x08'
  | 'f' => some '\x0c'
  | 'n' => some '\n'
  | 'r' => some '\r'
  | 't' => some '\t'
  | _ => none

/-- A string after its opening quote: the characters so far, the last first, or the first fault that
only a reader meets. `fuel` is the length of the text. -/
def scanString : Nat → Place → List Char → Except Fault (List Char) → Scan
  | 0, place, _, _ => .both .endInString place
  | fuel + 1, place, cs, done =>
      let stop (cause : Cause) (readPlace skipPlace : Place) : Scan :=
        match done with
        | .ok _ => .broken (fault cause readPlace) (fault cause skipPlace)
        | .error f => .broken f (fault cause skipPlace)
      let push (c : Char) : Except Fault (List Char) := done.map (c :: ·)
      match cs with
      | [] => stop .endInString place place
      | '"' :: rest =>
          .token (.string (done.map fun cs => String.ofList cs.reverse)) (advance place 1) rest
      | ['\\'] => stop .endInString (advance place 1) (advance place 1)
      | '\\' :: 'u' :: rest =>
          let place := advance place 2
          match fourHex place rest with
          | .error f => match done with
            | .ok _ => .broken f f
            | .error first => .broken first f
          | .ok n =>
              let place := advance place 4
              let rest := rest.drop 4
              match done with
              | .error _ => scanString fuel place rest done
              | .ok _ =>
                  match escapedChar n place rest with
                  | .ok (c, more) =>
                      scanString fuel (advance place more) (rest.drop more) (push c)
                  | .error f => scanString fuel place rest (.error f)
      | '\\' :: c :: rest =>
          match shortEscape? c with
          | some e => scanString fuel (advance place 2) rest (push e)
          | none => stop .invalidEscape ((advance place 1).byte c) ((advance place 1).byte c)
      | c :: rest =>
          if c.toNat < 32 then stop .controlCharacter (place.byte c) place
          else scanString fuel (place.step c) rest (push c)

def isSpace (c : Char) : Bool := c = ' ' || c = '\n' || c = '\t' || c = '\r'

def scanToken (place : Place) (c : Char) (rest : List Char) : Scan :=
  match c with
  | '[' => .token .openList (advance place 1) rest
  | ']' => .token .closeList (advance place 1) rest
  | '\x7b' => .token .openObject (advance place 1) rest
  | '\x7d' => .token .closeObject (advance place 1) rest
  | ',' => .token .comma (advance place 1) rest
  | ':' => .token .colon (advance place 1) rest
  | '"' => scanString (rest.length + 1) (advance place 1) rest (.ok [])
  | 'n' => scanWord .null ['u', 'l', 'l'] (advance place 1) rest
  | 't' => scanWord (.bool true) ['r', 'u', 'e'] (advance place 1) rest
  | 'f' => scanWord (.bool false) ['a', 'l', 's', 'e'] (advance place 1) rest
  | '-' => scanNumber true (advance place 1) rest
  | c =>
      if isDigit c then scanNumber false place (c :: rest)
      else .token .stray (place.step c) rest

def scanTokens : Nat → Place → List Char → List Lexeme × Place
  | 0, place, _ => ([], place)
  | _ + 1, place, [] => ([], place)
  | fuel + 1, place, c :: cs =>
      if isSpace c then scanTokens fuel (place.step c) cs
      else
        match scanToken place c cs with
        | .broken read skip =>
            let token := if c = '"' then Token.brokenString read skip else .broken read skip
            ([⟨token, place, place.byte c, place⟩], place)
        | .token token stop rest =>
            let (lexemes, last) := scanTokens fuel stop rest
            (⟨token, place, place.byte c, stop⟩ :: lexemes, last)

def tokens (text : String) : List Lexeme × Place :=
  let cs := text.toList
  scanTokens cs.length ⟨1, 0⟩ cs

end Wireframe.Json
