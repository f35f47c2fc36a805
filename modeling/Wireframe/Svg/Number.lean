import Wireframe.Binary.Format
import Wireframe.Xml.Token

namespace Wireframe.Svg

def skip (cs : List Char) : List Char := cs.dropWhile Xml.isSpace

def skipComma : List Char → List Char
  | ',' :: rest => rest
  | cs => cs

def digits (cs : List Char) : List Char × List Char := cs.span Char.isDigit

def sign : List Char → Bool × List Char
  | '-' :: rest => (true, rest)
  | '+' :: rest => (false, rest)
  | cs => (false, cs)

def natOfDigits (cs : List Char) : Nat :=
  cs.foldl (fun n c => n * 10 + (c.toNat - 48)) 0

/-- A decimal exponent, if an `e` starts one; `em` and `ex` are units. A mark without digits is an
error. -/
def exponent? : List Char → Option (Int × List Char)
  | c :: rest =>
      if c = 'e' ∨ c = 'E' then
        match rest with
        | 'm' :: _ | 'x' :: _ => some (0, c :: rest)
        | _ =>
            let (negative, rest) := sign rest
            let (power, rest) := digits rest
            if power.isEmpty then none
            else
              let size : Int := natOfDigits power
              some (if negative then -size else size, rest)
      else some (0, c :: rest)
  | [] => some (0, [])

def fraction : List Char → List Char × List Char
  | '.' :: rest => digits rest
  | cs => ([], cs)

def number? (cs : List Char) : Option (Float × List Char) :=
  let (negative, cs) := sign (skip cs)
  let (whole, cs) := digits cs
  let (part, cs) := fraction cs
  if whole.isEmpty && part.isEmpty then none
  else
    match exponent? cs with
    | none => none
    | some (exponent, cs) =>
        let value := Binary.doubleOfDecimal negative (natOfDigits (whole ++ part))
          (exponent - part.length)
        if value.isFinite then some (value, cs) else none

def listNumber? (cs : List Char) : Option (Float × List Char) :=
  (number? cs).map fun (value, rest) => (value, skipComma (skip rest))

def listNumbers? : Nat → List Char → Option (List Float × List Char)
  | 0, cs => some ([], cs)
  | count + 1, cs => do
      let (value, cs) ← listNumber? cs
      let (others, cs) ← listNumbers? count cs
      pure (value :: others, cs)

def word (cs : List Char) : List Char × List Char :=
  cs.span fun c => c.isAlphanum || c = '-' || c = '_'

/-- Units of length; absolute ones are given in user units to the unit. -/
inductive LengthUnit where
  | user
  | pixel
  | em
  | ex
  | inch
  | centimetre
  | millimetre
  | point
  | pica
  | percent
  deriving DecidableEq, Repr

structure Length where
  number : Float
  unit : LengthUnit

def LengthUnit.ofChars : List Char → LengthUnit × List Char
  | '%' :: rest => (.percent, rest)
  | 'e' :: 'm' :: rest => (.em, rest)
  | 'e' :: 'x' :: rest => (.ex, rest)
  | 'p' :: 'x' :: rest => (.pixel, rest)
  | 'i' :: 'n' :: rest => (.inch, rest)
  | 'c' :: 'm' :: rest => (.centimetre, rest)
  | 'm' :: 'm' :: rest => (.millimetre, rest)
  | 'p' :: 't' :: rest => (.point, rest)
  | 'p' :: 'c' :: rest => (.pica, rest)
  | cs => (.user, cs)

def Length.read? (cs : List Char) : Option (Length × List Char) :=
  (number? cs).map fun (number, rest) =>
    let (unit, rest) := LengthUnit.ofChars rest
    (⟨number, unit⟩, rest)

def Length.ofText? (text : String) : Option Length :=
  match Length.read? text.toList with
  | some (length, []) => some length
  | _ => none

def clampShare (x : Float32) : Float32 :=
  if x.isFinite then (if x < 0 then 0 else if 1 < x then 1 else x) else 0

def opacity? (text : String) : Option Float32 :=
  match Length.ofText? text with
  | none => none
  | some length =>
      let value := Binary.narrow length.number
      match length.unit with
      | .user => some (clampShare value)
      | .percent => some (clampShare (value / 100))
      | _ => none

end Wireframe.Svg
