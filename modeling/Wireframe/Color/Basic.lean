import Wireframe.Binary.Format
import Wireframe.Color.Keyword
import Wireframe.Json.Codec

namespace Wireframe

structure Color where
  r : Float32
  g : Float32
  b : Float32
  a : Float32
  deriving DecidableEq

namespace Color

def rgb (r g b : Float32) : Color := ⟨r, g, b, 1⟩

def white : Color := rgb 1 1 1

def black : Color := rgb 0 0 0

def isWhite (color : Color) : Bool := 1 ≤ color.r && 1 ≤ color.g && 1 ≤ color.b

def channelOfByte (byte : Nat) : Float32 := Binary.singleOfInt byte * (1 / 255)

def ofBytes (r g b : Nat) : Color := rgb (channelOfByte r) (channelOfByte g) (channelOfByte b)

/-- The byte nearest to a channel, the even one of two; channels outside their range are clamped. -/
def byteOfChannel (channel : Float32) : Nat :=
  let scaled := channel * 255
  if scaled.isNaN ∨ 255 ≤ scaled then 255
  else
    match Binary.decodeSingle scaled with
    | .finite false significand exponent =>
        Binary.roundToEven (significand * Nat.pow 2 exponent.toNat) (Nat.pow 2 (-exponent).toNat)
    | _ => 0

def hexDigit? (c : Char) : Option Nat :=
  if '0' ≤ c ∧ c ≤ '9' then some (c.toNat - 48)
  else if 'a' ≤ c ∧ c ≤ 'f' then some (c.toNat - 87)
  else if 'A' ≤ c ∧ c ≤ 'F' then some (c.toNat - 55)
  else none

/-- A group of two digits; a plus sign may stand in place of the first. -/
def hexPair? (high low : Char) : Option Nat := do
  let high ← if high = '+' then some 0 else hexDigit? high
  let low ← hexDigit? low
  pure (high * 16 + low)

/-- A code of three single digits, each meant twice, or of three pairs. A code with a character
outside ASCII is malformed, as third-party parsers of codes document it; that such a parser cuts the
code between bytes, and so perhaps inside a character, is not modelled. -/
def codeBytes? : List Char → Option (Nat × Nat × Nat)
  | [r, g, b] => do
      let r ← hexDigit? r
      let g ← hexDigit? g
      let b ← hexDigit? b
      pure (r * 17, g * 17, b * 17)
  | [r, r', g, g', b, b'] => do
      let r ← hexPair? r r'
      let g ← hexPair? g g'
      let b ← hexPair? b b'
      pure (r, g, b)
  | _ => none

def ofHex? (text : String) : Option Color :=
  let code := match Text.trimChars text.toList with
    | '#' :: code => code
    | code => code
  (codeBytes? code).map fun (r, g, b) => ofBytes r g b

def ofKeyword? (name : String) : Option Color :=
  (keywordBytes? (Text.lower (Text.trim name))).map fun (r, g, b) => ofBytes r g b

def hexDigitChar (n : Nat) : Char :=
  if n < 10 then Char.ofNat (48 + n) else Char.ofNat (87 + n)

def byteHex (byte : Nat) : List Char := [hexDigitChar (byte / 16), hexDigitChar (byte % 16)]

def toHex (color : Color) : String :=
  String.ofList ('#' :: byteHex (byteOfChannel color.r) ++ byteHex (byteOfChannel color.g) ++
    byteHex (byteOfChannel color.b))

def codec : Json.Codec Color :=
  .record "struct Color"
    [.must "r" .single Color.r fun r color => { color with r },
      .must "g" .single Color.g fun g color => { color with g },
      .must "b" .single Color.b fun b color => { color with b },
      .may "a" .single Color.a fun a color => { color with a }]
    black

def toJson (color : Color) : Json := codec.encode color

end Color

end Wireframe
