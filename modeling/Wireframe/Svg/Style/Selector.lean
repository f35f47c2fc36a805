import Wireframe.Svg.Style.Word
import Wireframe.Xml.Namespace

namespace Wireframe.Svg.Style

open Scanner

inductive Condition where
  | any
  | equals (value : String)
  | hasWord (value : String)
  | startsWith (value : String)
  deriving DecidableEq, Repr

/-- What an element must be besides its name; `never` stands for states that no element is in. -/
inductive Trait where
  | attribute (name : String) (condition : Condition)
  | firstChild
  | never
  deriving DecidableEq, Repr

structure Compound where
  name : Option String
  traits : List Trait
  deriving DecidableEq, Repr

/-- Where the element of the condition before lies: around an element, directly around it, or
directly before it. -/
inductive Combinator where
  | descendant
  | child
  | sibling
  deriving DecidableEq, Repr

inductive Selector where
  | one (compound : Compound)
  | after (left : Selector) (combinator : Combinator) (compound : Compound)
  deriving DecidableEq, Repr

inductive Spot where
  | mk (name : String) (attributes : Xml.Attributes) (before around : Option Spot)

namespace Spot

def name : Spot → String
  | .mk name _ _ _ => name

def attribute? (name : String) : Spot → Option String
  | .mk _ attributes _ _ => attributes.lookup ⟨none, name⟩

def before? : Spot → Option Spot
  | .mk _ _ before _ => before

def around? : Spot → Option Spot
  | .mk _ _ _ around => around

def outer : Spot → List Spot
  | .mk _ _ _ none => []
  | .mk _ _ _ (some around) => around :: around.outer

end Spot

def splitAt (separator : Char) (cs : List Char) : List (List Char) :=
  let (parts, last) := cs.foldr
    (fun c (parts, part) => if c = separator then (part :: parts, []) else (parts, c :: part))
    ([], [])
  last :: parts

/-- Whether a value is as it must be; one that starts with a text ends there or has a hyphen next.
-/
def Condition.holds (value : String) : Condition → Bool
  | .any => true
  | .equals expected => value = expected
  | .hasWord word => (splitAt ' ' value.toList).contains word.toList
  | .startsWith start =>
      match Text.after? start.toList value.toList with
      | some [] => true
      | some (c :: _) => c = '-'
      | none => false

def Trait.holds (spot : Spot) : Trait → Bool
  | .attribute name condition => (spot.attribute? name).any condition.holds
  | .firstChild => spot.before?.isNone
  | .never => false

def Compound.holds (compound : Compound) (spot : Spot) : Bool :=
  compound.name.all (· = spot.name) && compound.traits.all (Trait.holds spot)

def Selector.selects : Selector → Spot → Bool
  | .one compound, spot => compound.holds spot
  | .after left combinator compound, spot =>
      compound.holds spot &&
        match combinator with
        | .descendant => spot.outer.any left.selects
        | .child => spot.around?.any left.selects
        | .sibling => spot.before?.any left.selects

/-- How many ids, other traits and names a selector asks for; no number is greater than a byte. -/
structure Weight where
  ids : Nat
  traits : Nat
  names : Nat
  deriving DecidableEq, Repr

namespace Weight

def add (v w : Weight) : Weight := ⟨v.ids + w.ids, v.traits + w.traits, v.names + w.names⟩

def clamp (w : Weight) : Weight := ⟨min w.ids 255, min w.traits 255, min w.names 255⟩

def atMost (v w : Weight) : Bool :=
  v.ids < w.ids || (v.ids == w.ids &&
    (v.traits < w.traits || (v.traits == w.traits && v.names ≤ w.names)))

end Weight

def Trait.isId : Trait → Bool
  | .attribute "id" _ => true
  | _ => false

def Compound.weight (compound : Compound) : Weight :=
  ⟨compound.traits.countP Trait.isId, compound.traits.countP (!·.isId),
    compound.name.toList.length⟩

def Selector.totalWeight : Selector → Weight
  | .one compound => compound.weight
  | .after left _ compound => left.totalWeight.add compound.weight

def Selector.weight (selector : Selector) : Weight := selector.totalWeight.clamp

/-- What has been read of a selector: nothing; a selector that may go on or end; or a selector that
another condition must follow. -/
inductive Draft where
  | start
  | read (selector : Selector)
  | joined (selector : Selector) (combinator : Combinator)

namespace Draft

def isOpen : Draft → Bool
  | .read _ => false
  | _ => true

def finish? : Draft → Option Selector
  | .read selector => some selector
  | _ => none

def name? (name : Option String) : Draft → Option Draft
  | .start => some (.read (.one ⟨name, []⟩))
  | .joined left combinator => some (.read (.after left combinator ⟨name, []⟩))
  | .read _ => none

def trait (trait : Trait) : Draft → Draft
  | .start => .read (.one ⟨none, [trait]⟩)
  | .joined left combinator => .read (.after left combinator ⟨none, [trait]⟩)
  | .read (.one ⟨name, traits⟩) => .read (.one ⟨name, traits ++ [trait]⟩)
  | .read (.after left combinator ⟨name, traits⟩) =>
      .read (.after left combinator ⟨name, traits ++ [trait]⟩)

def join? (combinator : Combinator) : Draft → Option Draft
  | .read selector => some (.joined selector combinator)
  | _ => none

end Draft

def condition : Scanner Condition := do
  let value : Scanner String := do
    expect '='
    pure (String.ofList (← quoted))
  match ← peek with
  | ']' => pure .any
  | '=' => do pure (.equals (← value))
  | '~' => do
      expect '~'
      pure (.hasWord (← value))
  | '|' => do
      expect '|'
      pure (.startsWith (← value))
  | _ => failure

def attributeTrait : Scanner Trait := do
  let name ← identifier
  let condition ← condition
  expect ']'
  pure (.attribute name condition)

def stateTrait : Scanner Trait := do
  match ← identifier with
  | "first-child" => pure .firstChild
  | "link" | "visited" | "hover" | "active" | "focus" => pure .never
  | "lang" => do
      expect '('
      let language ← takeWhile (· ≠ ')')
      expect ')'
      if (Text.trimChars language).isEmpty then failure else pure .never
  | _ => failure

def skipCommentsWithin : Nat → Scanner Unit
  | 0 => pure ()
  | fuel + 1 => do
      if (← get).head? = some '/' then do
        skipComment
        skipBlanks
        skipCommentsWithin fuel

/-- Whether blanks before what follows mean nothing. -/
def endsBlanks : List Char → Bool
  | [] => true
  | c :: _ => c = '>' || c = '+' || c = ',' || c = '{'

def blanks (draft : Draft) : Scanner Draft := do
  skipBlanks
  if draft.isOpen then pure draft
  else do
    skipCommentsWithin (← get).length
    if endsBlanks (← get) then pure draft else (draft.join? .descendant).getM

def selectorPart (draft : Draft) : Scanner (Option Draft) := do
  match ← get with
  | [] | ',' :: _ | '{' :: _ => pure none
  | '*' :: rest => do
      let draft ← (draft.name? none).getM
      set rest
      pure (some draft)
  | '#' :: rest => do
      set rest
      pure (some (draft.trait (.attribute "id" (.equals (← identifier)))))
  | '.' :: rest => do
      set rest
      pure (some (draft.trait (.attribute "class" (.hasWord (← identifier)))))
  | '[' :: rest => do
      set rest
      pure (some (draft.trait (← attributeTrait)))
  | ':' :: rest => do
      set rest
      pure (some (draft.trait (← stateTrait)))
  | '>' :: rest => do
      let draft ← (draft.join? .child).getM
      set rest
      skipBlanks
      pure (some draft)
  | '+' :: rest => do
      let draft ← (draft.join? .sibling).getM
      set rest
      skipBlanks
      pure (some draft)
  | '/' :: rest =>
      if rest.head? = some '*' then do
        skipComment
        pure (some draft)
      else pure none
  | c :: _ =>
      if isBlank c then do pure (some (← blanks draft))
      else do
        let name ← identifier
        pure (some (← (draft.name? (some name)).getM))

def selectorWithin : Nat → Draft → Scanner Selector
  | 0, draft => draft.finish?.getM
  | fuel + 1, draft => do
      match ← selectorPart draft with
      | some draft => selectorWithin fuel draft
      | none => draft.finish?.getM

def selector : Scanner Selector := do
  selectorWithin (← get).length .start

end Wireframe.Svg.Style
