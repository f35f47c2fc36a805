import Wireframe.Svg.Number

namespace Wireframe.Svg

/-- What the value `inherit` stands for: the value of the element around, or of the nearest element
around that has one, or else an initial value. -/
structure Inheritance where
  isDistant : Bool
  initial : Option String
  deriving DecidableEq, Repr

structure Property where
  name : String
  inheritance : Option Inheritance
  deriving DecidableEq, Repr

def properties : List Property := [
  ⟨"clip-path", some ⟨false, some "none"⟩⟩,
  ⟨"color", some ⟨true, none⟩⟩,
  ⟨"display", some ⟨false, some "inline"⟩⟩,
  ⟨"fill", some ⟨true, some "black"⟩⟩,
  ⟨"fill-opacity", some ⟨true, some "1"⟩⟩,
  ⟨"filter", some ⟨false, some "none"⟩⟩,
  ⟨"font-size", some ⟨true, some "medium"⟩⟩,
  ⟨"isolation", none⟩,
  ⟨"marker-end", some ⟨true, some "none"⟩⟩,
  ⟨"marker-mid", some ⟨true, some "none"⟩⟩,
  ⟨"marker-start", some ⟨true, some "none"⟩⟩,
  ⟨"mask", some ⟨false, some "none"⟩⟩,
  ⟨"mix-blend-mode", none⟩,
  ⟨"opacity", some ⟨false, some "1"⟩⟩,
  ⟨"overflow", some ⟨false, some "visible"⟩⟩,
  ⟨"paint-order", none⟩,
  ⟨"stop-color", some ⟨false, some "black"⟩⟩,
  ⟨"stop-opacity", some ⟨false, some "1"⟩⟩,
  ⟨"stroke", some ⟨true, some "none"⟩⟩,
  ⟨"stroke-opacity", some ⟨true, some "1"⟩⟩,
  ⟨"stroke-width", some ⟨true, some "1"⟩⟩,
  ⟨"transform", none⟩,
  ⟨"transform-origin", none⟩,
  ⟨"visibility", some ⟨true, some "visible"⟩⟩]

def property? (name : String) : Option Property :=
  properties.find? fun property => property.name = name

def styleOnly : List String := ["isolation", "mix-blend-mode"]

def fontWords : List String := [
  "normal", "small-caps", "italic", "oblique", "bold", "bolder", "lighter", "100", "200", "300",
  "400", "500", "600", "700", "800", "900", "ultra-condensed", "extra-condensed", "condensed",
  "semi-condensed", "semi-expanded", "expanded", "extra-expanded", "ultra-expanded"]

def fontSizes : List (String × Int) := [
  ("xx-small", -3), ("x-small", -2), ("small", -1), ("medium", 0), ("large", 1), ("x-large", 2),
  ("xx-large", 3), ("smaller", -1), ("larger", 1)]

def afterFontWords : Nat → List Char → List Char
  | 0, cs => cs
  | limit + 1, cs =>
      let (name, rest) := word cs
      if fontWords.contains (String.ofList name) then afterFontWords limit (skip rest) else cs

def fontSize? (cs : List Char) : Option (List Char × List Char) :=
  match cs with
  | [] => none
  | c :: _ =>
      if c.isDigit then
        (Length.read? cs).map fun (_, rest) => (cs.take (cs.length - rest.length), rest)
      else
        let (name, rest) := word cs
        if (fontSizes.lookup (String.ofList name)).isSome then some (name, rest) else none

/-- The size that a value of the `font` property sets: it stands behind other words, perhaps with
the height of a line, and before the name of a family. -/
def sizeOfFont? (text : String) : Option String := do
  let (size, rest) ← fontSize? (afterFontWords 4 (skip text.toList))
  let rest ← match skip rest with
    | '/' :: rest => (Length.read? rest).map fun (_, rest) => skip rest
    | rest => some rest
  if rest.isEmpty then none else pure (String.ofList size)

end Wireframe.Svg
