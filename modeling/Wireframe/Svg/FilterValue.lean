import Wireframe.Svg.Ink
import Wireframe.Svg.Link

namespace Wireframe.Svg

/-- A link to a filter, or a function, of which nothing is kept but that it is there. -/
inductive FilterValue where
  | link (id : String)
  | function
  deriving DecidableEq, Repr

namespace FilterValue

def distance? (cs : List Char) : Option (Length × List Char) :=
  (Length.read? cs).filter fun (length, _) => length.unit ≠ .percent

def optional? {α : Type} (read? : List Char → Option (α × List Char)) (isGood : α → Bool)
    (cs : List Char) : Option (List Char) :=
  match read? cs with
  | some (value, rest) => if isGood value then some (skip rest) else none
  | none => some cs

def radius? (cs : List Char) : Option (List Char) :=
  optional? Length.read? (fun length => 0 ≤ length.number && length.unit ≠ .percent) cs

def share? (cs : List Char) : Option (List Char) := optional? number? (fun number => 0 ≤ number) cs

def angleUnits : List String := ["deg", "grad", "rad", "turn"]

def angle? (cs : List Char) : Option (List Char) :=
  match number? cs with
  | none => some cs
  | some (_, rest) =>
      some (skip ((angleUnits.findSome? fun name => Text.after? name.toList rest).getD rest))

/-- A shadow: how far it is moved, perhaps how much it is blurred, and a colour on either side. -/
def shadow? (cs : List Char) : Option (List Char) := do
  let (isColored, cs) := match Ink.read? cs with
    | some (_, rest) => (true, rest)
    | none => (false, cs)
  let (_, cs) ← distance? cs
  let (_, cs) ← distance? cs
  let cs ← radius? (skip cs)
  if isColored then pure cs else optional? Ink.read? (fun _ => true) cs

def arguments? (name : String) (cs : List Char) : Option (List Char) :=
  match name with
  | "blur" => radius? cs
  | "brightness" | "contrast" | "grayscale" | "invert" | "opacity" | "saturate" | "sepia" =>
      (share? cs).map fun rest => skip (match rest with
        | '%' :: rest => rest
        | rest => rest)
  | "drop-shadow" => shadow? cs
  | "hue-rotate" => angle? cs
  | _ => none

def read? (cs : List Char) : Option (FilterValue × List Char) :=
  if (Text.after? "url(".toList cs).isSome then
    (bracketLink? cs).map fun (id, rest) => (.link id, rest)
  else do
    let (name, rest) := word cs
    let rest ← arguments? (String.ofList name) (skip (← expect? '(' rest))
    pure (.function, ← expect? ')' rest)

def listWithin? : Nat → List Char → Option (List FilterValue)
  | 0, cs => if (skip cs).isEmpty then some [] else none
  | fuel + 1, cs =>
      match skip cs with
      | [] => some []
      | cs => do
          let (value, rest) ← read? cs
          pure (value :: (← listWithin? fuel rest))

def list? (text : String) : Option (List FilterValue) := listWithin? text.length text.toList

end FilterValue

end Wireframe.Svg
