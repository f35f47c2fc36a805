import Wireframe.Svg.Number
import Wireframe.Vector.Basic

namespace Wireframe

namespace Matrix

def sameAs (m n : Matrix) : Bool :=
  m.a == n.a && m.b == n.b && m.c == n.c && m.d == n.d && m.e == n.e && m.f == n.f

def identity : Matrix := ⟨1, 0, 0, 1, 0, 0⟩

def isIdentity (m : Matrix) : Bool := m.sameAs identity

def offset (x y : Float32) : Matrix := ⟨1, 0, 0, 1, x, y⟩

def scaling (x y : Float32) : Matrix := ⟨x, 0, 0, y, 0, 0⟩

def isFinite (m : Matrix) : Bool :=
  m.a.isFinite && m.b.isFinite && m.c.isFinite && m.d.isFinite && m.e.isFinite && m.f.isFinite

def leastScale : Float32 := Float32.ofBits 0x34000000

def scales (m : Matrix) : Float32 × Float32 :=
  ((m.a * m.a + m.c * m.c).sqrt, (m.b * m.b + m.d * m.d).sqrt)

/-- Whether a matrix is finite and shrinks neither axis to nothing. -/
def isUsable (m : Matrix) : Bool :=
  m.isFinite && leastScale < m.scales.1 && leastScale < m.scales.2

def isSkewed (m : Matrix) : Bool := !(m.b == 0 && m.c == 0)

def sumOfProducts (a b c d : Float32) : Float32 :=
  Binary.narrow (Binary.widen a * Binary.widen b + Binary.widen c * Binary.widen d)

/-- The transform that does `n` first and then `m`. -/
def multiply (m n : Matrix) : Matrix :=
  if m.isIdentity then n
  else if n.isIdentity then m
  else if !m.isSkewed && !n.isSkewed then
    ⟨m.a * n.a, 0, 0, m.d * n.d, m.a * n.e + m.e, m.d * n.f + m.f⟩
  else
    { a := sumOfProducts m.a n.a m.c n.b
      b := sumOfProducts m.b n.a m.d n.b
      c := sumOfProducts m.a n.c m.c n.d
      d := sumOfProducts m.b n.c m.d n.d
      e := sumOfProducts m.a n.e m.c n.f + m.e
      f := sumOfProducts m.b n.e m.d n.f + m.f }

def apply (m : Matrix) (p : Point) : Point :=
  if m.isIdentity then p
  else if !m.isSkewed then
    if m.a == 1 && m.d == 1 then ⟨p.x + m.e, p.y + m.f⟩ else ⟨p.x * m.a + m.e, p.y * m.d + m.f⟩
  else ⟨p.x * m.a + p.y * m.c + m.e, p.x * m.b + p.y * m.d + m.f⟩

end Matrix

namespace Svg

structure WideMatrix where
  a : Float
  b : Float
  c : Float
  d : Float
  e : Float
  f : Float

namespace WideMatrix

def identity : WideMatrix := ⟨1, 0, 0, 1, 0, 0⟩

def offset (x y : Float) : WideMatrix := ⟨1, 0, 0, 1, x, y⟩

def multiply (m n : WideMatrix) : WideMatrix where
  a := m.a * n.a + m.c * n.b
  b := m.b * n.a + m.d * n.b
  c := m.a * n.c + m.c * n.d
  d := m.b * n.c + m.d * n.d
  e := m.a * n.e + m.c * n.f + m.e
  f := m.b * n.e + m.d * n.f + m.f

def narrow (m : WideMatrix) : Matrix :=
  ⟨Binary.narrow m.a, Binary.narrow m.b, Binary.narrow m.c, Binary.narrow m.d, Binary.narrow m.e,
    Binary.narrow m.f⟩

end WideMatrix

def pi : Float := Float.ofBits 0x400921FB54442D18

def radians (degrees : Float) : Float := degrees * (pi / 180)

def rotation (degrees : Float) : WideMatrix :=
  let angle := radians degrees
  ⟨angle.cos, angle.sin, -angle.sin, angle.cos, 0, 0⟩

def arguments? : Nat → List Char → Option (List Float × List Char)
  | 0, _ => none
  | limit + 1, cs => do
      let (value, cs) ← listNumber? cs
      match skip cs with
      | ')' :: rest => pure ([value], rest)
      | cs => do
          let (others, rest) ← arguments? limit cs
          pure (value :: others, rest)

def transformSteps? (name : String) (arguments : List Float) : Option (List WideMatrix) :=
  match name, arguments with
  | "matrix", [a, b, c, d, e, f] => some [⟨a, b, c, d, e, f⟩]
  | "translate", [x] => some [.offset x 0]
  | "translate", [x, y] => some [.offset x y]
  | "scale", [s] => some [⟨s, 0, 0, s, 0, 0⟩]
  | "scale", [x, y] => some [⟨x, 0, 0, y, 0, 0⟩]
  | "rotate", [angle] => some [rotation angle]
  | "rotate", [angle, x, y] =>
      some [.offset x y, rotation angle, .offset (-x) (-y)]
  | "skewX", [angle] => some [⟨1, 0, (radians angle).tan, 1, 0, 0⟩]
  | "skewY", [angle] => some [⟨1, (radians angle).tan, 0, 1, 0, 0⟩]
  | _, _ => none

def transformList? : Nat → List Char → Option (List WideMatrix)
  | 0, _ => none
  | fuel + 1, cs =>
      match skip cs with
      | [] => some []
      | cs =>
          let (name, rest) := word cs
          match skip rest with
          | '(' :: rest => do
              let (arguments, rest) ← arguments? 6 rest
              let steps ← transformSteps? (String.ofList name) arguments
              let others ← transformList? fuel (skipComma (skip rest))
              pure (steps ++ others)
          | _ => none

def transform? (text : String) : Option Matrix :=
  let cs := text.toList
  (transformList? (cs.length + 1) cs).map fun steps =>
    (steps.foldl WideMatrix.multiply .identity).narrow

end Svg

end Wireframe
