import Wireframe.Binary.Format
/-!
The shortest decimal text of a binary number. Of all decimals that read back as the number the one
with the fewest digits is taken, and of those the nearest. All arithmetic is on natural numbers.
-/

namespace Wireframe.Binary

inductive Tie where
  | even
  | up
  deriving DecidableEq, Repr

structure Decimal where
  digits : Nat
  exponent : Int
  deriving DecidableEq, Repr

def Decimal.strip : Nat → Decimal → Decimal
  | 0, d => d
  | fuel + 1, d =>
      if d.digits ≠ 0 ∧ d.digits % 10 = 0 then Decimal.strip fuel ⟨d.digits / 10, d.exponent + 1⟩
      else d

/-- The reals that round to one binary number, as multiples `low`, `value`, `high` of the quotient
`numerator / denominator`; the ends belong to it when `closed`. -/
structure Interval where
  low : Nat
  value : Nat
  high : Nat
  numerator : Nat
  denominator : Nat
  closed : Bool

/-- The interval around `significand * 2 ^ exponent`. The gap below a power of two is half the gap
above it, except at the least exponent. -/
def Interval.around (format : Format) (significand : Nat) (exponent : Int) : Interval :=
  let narrowBelow := significand = Nat.pow 2 format.fractionBits ∧ format.unitExponent < exponent
  let shift := exponent - 2
  { low := 4 * significand - (if narrowBelow then 1 else 2)
    value := 4 * significand
    high := 4 * significand + 2
    numerator := Nat.pow 2 shift.toNat
    denominator := Nat.pow 2 (-shift).toNat
    closed := significand % 2 = 0 }

namespace Interval

def log10 (i : Interval) : Int :=
  let atLeast (e : Int) : Bool :=
    i.denominator * Nat.pow 10 e.toNat ≤ i.value * i.numerator * Nat.pow 10 (-e).toNat
  let guess := log2Quotient (i.value * i.numerator) i.denominator * 30103 / 100000
  if atLeast (guess + 1) then guess + 1 else if atLeast guess then guess else guess - 1

def holds (i : Interval) (digits : Nat) (exponent : Int) : Bool :=
  let point := digits * Nat.pow 10 exponent.toNat * i.denominator
  let unit := i.numerator * Nat.pow 10 (-exponent).toNat
  if i.closed then i.low * unit ≤ point ∧ point ≤ i.high * unit
  else i.low * unit < point ∧ point < i.high * unit

/-- The multiple of `10 ^ exponent` that is not above the value, its neighbour above, and which of
them is nearer, when one of them reads back. -/
def candidate (i : Interval) (tie : Tie) (exponent : Int) : Option Nat :=
  let numerator := i.value * i.numerator * Nat.pow 10 (-exponent).toNat
  let denominator := i.denominator * Nat.pow 10 exponent.toNat
  let below := numerator / denominator
  let rest := 2 * (numerator % denominator)
  let up := denominator < rest ∨ rest = denominator ∧ (tie = .up ∨ below % 2 = 1)
  match i.holds below exponent, i.holds (below + 1) exponent with
  | true, true => some (if up then below + 1 else below)
  | true, false => some below
  | false, true => some (below + 1)
  | false, false => none

def search (i : Interval) (tie : Tie) : Nat → Int → Decimal
  | 0, exponent => ⟨i.value * i.numerator * Nat.pow 10 (-exponent).toNat /
      (i.denominator * Nat.pow 10 exponent.toNat), exponent⟩
  | steps + 1, exponent =>
      match i.candidate tie exponent with
      | some digits => ⟨digits, exponent⟩
      | none => search i tie steps (exponent - 1)

end Interval

/-- The shortest decimal of a positive binary number; seventeen digits always suffice. -/
def shortest (format : Format) (tie : Tie) (significand : Nat) (exponent : Int) : Decimal :=
  let interval := Interval.around format significand exponent
  (interval.search tie 17 interval.log10).strip 20

structure Layout where
  tie : Tie
  plainFrom : Option Int
  plainTo : Option Int
  fraction : Bool
  infinity : String
  negativeInfinity : String
  notANumber : String

def Decimal.text (d : Decimal) : String := toString d.digits

def Decimal.magnitude (d : Decimal) : Int := d.text.length - 1 + d.exponent

def zeros (n : Nat) : String := String.ofList (List.replicate n '0')

def Decimal.plain (d : Decimal) (fraction : Bool) : String :=
  let digits := d.text.toList
  if 0 ≤ d.exponent then d.text ++ zeros d.exponent.toNat ++ (if fraction then ".0" else "")
  else
    let places := (-d.exponent).toNat
    if digits.length ≤ places then "0." ++ zeros (places - digits.length) ++ d.text
    else
      String.ofList (digits.take (digits.length - places)) ++ "." ++
        String.ofList (digits.drop (digits.length - places))

def Decimal.scientific (d : Decimal) : String :=
  let digits := d.text.toList
  let rest := String.ofList (digits.drop 1)
  String.ofList (digits.take 1) ++ (if rest.isEmpty then "" else "." ++ rest) ++ "e" ++
    (if d.magnitude < 0 then "-" else "+") ++ toString d.magnitude.natAbs

def Layout.magnitude (layout : Layout) (d : Decimal) : String :=
  let above := match layout.plainFrom with | some e => e ≤ d.magnitude | none => true
  let below := match layout.plainTo with | some e => d.magnitude ≤ e | none => true
  if above && below then d.plain layout.fraction else d.scientific

def Layout.datum (layout : Layout) (format : Format) : Datum → String
  | .nan => layout.notANumber
  | .infinite negative => if negative then layout.negativeInfinity else layout.infinity
  | .finite negative significand exponent =>
      (if negative then "-" else "") ++
        (if significand = 0 then (if layout.fraction then "0.0" else "0")
         else layout.magnitude (shortest format layout.tie significand exponent))

def textLayout : Layout := ⟨.up, none, none, false, "inf", "-inf", "NaN"⟩

/-- Numbers of 32 bits in data: a fraction always shows, and numbers below a millionth or of more
than thirteen places before the point have an exponent. -/
def singleData : Layout := ⟨.even, some (-6), some 12, true, "null", "null", "null"⟩

def doubleData : Layout := ⟨.even, some (-5), some 15, true, "null", "null", "null"⟩

def singleText (x : Float32) : String := textLayout.datum single (decodeSingle x)

end Wireframe.Binary
