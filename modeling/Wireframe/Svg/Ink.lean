import Wireframe.Binary.Format
import Wireframe.Color.Basic
import Wireframe.Svg.Number

namespace Wireframe.Svg

structure Ink where
  r : Nat
  g : Nat
  b : Nat
  alpha : Nat
  deriving DecidableEq, Repr

namespace Ink

def black : Ink := ⟨0, 0, 0, 255⟩

def channel (byte : Nat) : Float32 := Binary.singleOfInt byte / 255

def opacity (ink : Ink) : Float32 := channel ink.alpha

def color (ink : Ink) (opacity : Float32) : Color :=
  ⟨channel ink.r, channel ink.g, channel ink.b, opacity⟩

def byteNear (x : Float) : Nat := x.round.toUInt8.toNat

def ofDigits? (digits : List Nat) : Option Ink :=
  match digits with
  | [r, g, b] => some ⟨r * 17, g * 17, b * 17, 255⟩
  | [r, g, b, a] => some ⟨r * 17, g * 17, b * 17, a * 17⟩
  | [r, r', g, g', b, b'] => some ⟨r * 16 + r', g * 16 + g', b * 16 + b', 255⟩
  | [r, r', g, g', b, b', a, a'] =>
      some ⟨r * 16 + r', g * 16 + g', b * 16 + b', a * 16 + a'⟩
  | _ => none

def separated (cs : List Char) : List Char := skipComma (skip cs)

def listShare? (cs : List Char) : Option (Float × List Char) := do
  let (value, rest) ← number? cs
  match rest with
  | '%' :: rest => pure (value / 100, separated rest)
  | rest => pure (value, separated rest)

def clamp (x : Float) : Float := if x < 0 then 0 else if 1 < x then 1 else x

def closing? (cs : List Char) : Option (Nat × List Char) :=
  match skip cs with
  | ')' :: rest => some (255, rest)
  | cs => do
      let (share, cs) ← listShare? cs
      match skip cs with
      | ')' :: rest => pure (byteNear (clamp share * 255), rest)
      | _ => none

/-- The channels of `rgb` and `rgba` after the name. The first decides whether they are shares or
bytes. -/
def ofChannels? (cs : List Char) : Option (Ink × List Char) :=
  match cs with
  | '(' :: cs => do
      let (r, cs) ← number? cs
      match cs with
      | '%' :: cs => do
          let (g, cs) ← listShare? (separated cs)
          let (b, cs) ← listShare? cs
          let (alpha, rest) ← closing? cs
          pure (⟨byteNear (r / 100 * 255), byteNear (g * 255), byteNear (b * 255), alpha⟩, rest)
      | cs => do
          let (g, cs) ← listNumber? (separated cs)
          let (b, cs) ← listNumber? cs
          let (alpha, rest) ← closing? cs
          pure (⟨byteNear r, byteNear g, byteNear b, alpha⟩, rest)
  | _ => none

/-- How strong a channel is, `low` and `high` being its bounds; the wheel of hues has six sectors.
-/
def wheel (low high hue : Float32) : Float32 :=
  let hue := if hue < 0 then hue + 6 else hue
  let hue := if 6 ≤ hue then hue - 6 else hue
  if hue < 1 then (high - low) * hue + low
  else if hue < 3 then high
  else if hue < 4 then (high - low) * (4 - hue) + low
  else low

def ofWheel (hue saturation lightness : Float32) (alpha : Nat) : Ink :=
  let high :=
    if lightness ≤ 0.5 then lightness * (saturation + 1)
    else lightness + saturation - lightness * saturation
  let low := lightness * 2 - high
  let byte (hue : Float32) : Nat := byteNear (Binary.widen (wheel low high hue * 255))
  ⟨byte (hue + 2), byte hue, byte (hue - 2), alpha⟩

def ofHue? (cs : List Char) : Option (Ink × List Char) :=
  match cs with
  | '(' :: cs => do
      let (degrees, cs) ← listNumber? cs
      let turned := Binary.remainder (Binary.remainder degrees 360 + 360) 360
      let hue := Binary.narrow turned / 60
      let (saturation, cs) ← listShare? cs
      let (lightness, cs) ← listShare? cs
      let (alpha, rest) ← closing? cs
      pure (ofWheel hue (Binary.narrow (clamp saturation)) (Binary.narrow (clamp lightness)) alpha,
        rest)
  | _ => none

/-- A keyword in lower case; `rebeccapurple`, younger than the others, is not among them. -/
def ofKeyword? (name : String) : Option Ink :=
  if name = "transparent" then some ⟨0, 0, 0, 0⟩
  else if name = "rebeccapurple" then none
  else (Color.keywordBytes? name).map fun (r, g, b) => ⟨r, g, b, 255⟩

def read? (cs : List Char) : Option (Ink × List Char) :=
  match skip cs with
  | '#' :: cs =>
      let code := cs.takeWhile fun c => (Color.hexDigit? c).isSome
      (ofDigits? (code.filterMap Color.hexDigit?)).map (·, cs.drop code.length)
  | cs =>
      let (name, rest) := word cs
      match Text.lower (String.ofList name) with
      | "rgb" | "rgba" => ofChannels? rest
      | "hsl" | "hsla" => ofHue? rest
      | name => (ofKeyword? name).map (·, rest)

def ofChars? (cs : List Char) : Option Ink :=
  (read? cs).bind fun (ink, rest) => if (skip rest).isEmpty then some ink else none

def ofText? (text : String) : Option Ink := ofChars? text.toList

end Ink

end Wireframe.Svg
