namespace Wireframe.Binary

structure Format where
  fractionBits : Nat
  exponentBits : Nat
  deriving DecidableEq, Repr

def single : Format := ⟨23, 8⟩

def double : Format := ⟨52, 11⟩

/-- What a bit pattern stands for; `finite` is `significand * 2 ^ exponent` with its sign. -/
inductive Datum where
  | nan
  | infinite (negative : Bool)
  | finite (negative : Bool) (significand : Nat) (exponent : Int)
  deriving DecidableEq, Repr

def roundToEven (numerator denominator : Nat) : Nat :=
  let quotient := numerator / denominator
  let rest := numerator % denominator
  if 2 * rest < denominator then quotient
  else if denominator < 2 * rest then quotient + 1
  else if quotient % 2 = 0 then quotient
  else quotient + 1

def log2Quotient (numerator denominator : Nat) : Int :=
  let guess : Int := (numerator.log2 : Int) - (denominator.log2 : Int)
  if denominator * Nat.pow 2 guess.toNat ≤ numerator * Nat.pow 2 (-guess).toNat then guess
  else guess - 1

namespace Format

def unitExponent (format : Format) : Int :=
  2 - Nat.pow 2 (format.exponentBits - 1) - format.fractionBits

def infinityBits (format : Format) : Nat :=
  (Nat.pow 2 format.exponentBits - 1) * Nat.pow 2 format.fractionBits

def signBit (format : Format) : Nat :=
  Nat.pow 2 (format.fractionBits + format.exponentBits)

def decode (format : Format) (bits : Nat) : Datum :=
  let negative := bits / format.signBit % 2 = 1
  let field := bits / Nat.pow 2 format.fractionBits % Nat.pow 2 format.exponentBits
  let fraction := bits % Nat.pow 2 format.fractionBits
  if field = Nat.pow 2 format.exponentBits - 1 then
    if fraction = 0 then .infinite negative else .nan
  else if field = 0 then .finite negative fraction format.unitExponent
  else
    .finite negative (Nat.pow 2 format.fractionBits + fraction) (format.unitExponent + field - 1)

/-- The pattern of the number nearest to `numerator / denominator`. The exponent field and the
fraction join into one number, so a significand that rounds up to the next power of two and a
number beyond the greatest finite one need no case of their own. -/
def round (format : Format) (numerator denominator : Nat) : Nat :=
  if numerator = 0 then 0 else
    let exponent := max (log2Quotient numerator denominator - format.fractionBits)
      format.unitExponent
    let significand := roundToEven (numerator * Nat.pow 2 (-exponent).toNat)
      (denominator * Nat.pow 2 exponent.toNat)
    min ((exponent - format.unitExponent).toNat * Nat.pow 2 format.fractionBits + significand)
      format.infinityBits

def encode (format : Format) (negative : Bool) (numerator denominator : Nat) : Nat :=
  (if negative then format.signBit else 0) + format.round numerator denominator

def encodeDatum (format : Format) : Datum → Nat
  | .nan => format.infinityBits + 1
  | .infinite negative => (if negative then format.signBit else 0) + format.infinityBits
  | .finite negative significand exponent =>
      format.encode negative (significand * Nat.pow 2 exponent.toNat)
        (Nat.pow 2 (-exponent).toNat)

/-- The pattern nearest to `digits * 10 ^ exponent`. Exponents far outside every format's range are
answered without computing the power. -/
def encodeDecimal (format : Format) (negative : Bool) (digits : Nat) (exponent : Int) : Nat :=
  if digits = 0 ∨ exponent < -(400 + (digits.log2 : Int)) then format.encode negative 0 1
  else if 400 < exponent then format.encodeDatum (.infinite negative)
  else format.encode negative (digits * Nat.pow 10 exponent.toNat) (Nat.pow 10 (-exponent).toNat)

end Format

def toSingle (negative : Bool) (numerator denominator : Nat) : Float32 :=
  Float32.ofBits (UInt32.ofNat (single.encode negative numerator denominator))

def singleOfInt (n : Int) : Float32 :=
  toSingle (decide (n < 0)) n.natAbs 1

def doubleOfInt (n : Int) : Float :=
  Float.ofBits (UInt64.ofNat (double.encode (decide (n < 0)) n.natAbs 1))

def doubleOfDecimal (negative : Bool) (digits : Nat) (exponent : Int) : Float :=
  Float.ofBits (UInt64.ofNat (double.encodeDecimal negative digits exponent))

def decodeSingle (x : Float32) : Datum :=
  single.decode x.toBits.toNat

def decodeDouble (x : Float) : Datum :=
  double.decode x.toBits.toNat

def narrow (x : Float) : Float32 :=
  Float32.ofBits (UInt32.ofNat (single.encodeDatum (decodeDouble x)))

def widen (x : Float32) : Float :=
  Float.ofBits (UInt64.ofNat (double.encodeDatum (decodeSingle x)))

/-- The smaller of two numbers; one that is not a number gives way to the other. -/
def least (x y : Float32) : Float32 :=
  if x.isNaN then y else if y < x then y else x

def greatest (x y : Float32) : Float32 :=
  if x.isNaN then y else if x < y then y else x

/-- What is left of `x` when a multiple of `y` is taken away, with the sign of `x` and smaller than
`y`; not a number when `x` is infinite or `y` zero. It is exact, as the quotient is cut to an
integer and what is left is always a number of the format. -/
def remainder (x y : Float) : Float :=
  match decodeDouble x, decodeDouble y with
  | .finite negative m e, .finite _ n f =>
      if n = 0 then x - x + 0 / 0
      else
        let low := min e f
        let rest := (m * Nat.pow 2 (e - low).toNat) % (n * Nat.pow 2 (f - low).toNat)
        Float.ofBits (UInt64.ofNat
          (double.encode negative (rest * Nat.pow 2 low.toNat) (Nat.pow 2 (-low).toNat)))
  | .finite .., .infinite _ => x
  | _, _ => 0 / 0

end Wireframe.Binary
