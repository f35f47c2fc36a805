import Wireframe.Svg.Style.Declaration
import Wireframe.Svg.Style.Selector
import Wireframe.Xml.Tree

namespace Wireframe.Svg.Style

open Scanner

structure Rule where
  selector : Selector
  declarations : List Declaration

def selectorsWithin : Nat → List Selector → Scanner (List Selector)
  | 0, _ => failure
  | fuel + 1, found => do
      let isComma := (← peek) = ','
      if !isComma && !found.isEmpty then pure found
      else do
        discard (accept ',')
        let found := found ++ (← attempt selector).toList
        skipBlanks
        match ← peek with
        | '{' => pure found
        | ',' => selectorsWithin fuel found
        | _ => do
            discard (takeWhile (· ≠ '{'))
            pure found

def ruleSet : Scanner (List Rule) := do
  let selectors ← selectorsWithin (← get).length []
  discard (accept '{')
  let declarations ← declarationsWithin (← get).length
  discard (accept '}')
  pure (if declarations.isEmpty then [] else selectors.map (⟨·, declarations⟩))

def skipStatement : Scanner Unit := do
  discard identifier
  discard (takeWhile fun c => c ≠ ';' && c ≠ '{')
  match ← peek with
  | ';' => expect ';'
  | _ => set (afterBlock 0 (← get))

/-- The rules of a style sheet of no more than `fuel` statements, and whether it has been read to
its end: a comment without end between two statements breaks it off. What is no statement gives no
rules. -/
def rulesWithin : Nat → Scanner (List Rule × Bool)
  | 0 => pure ([], true)
  | fuel + 1 => do
      if (← attempt skipGaps).isNone then pure ([], false)
      else
        match ← get with
        | [] => pure ([], true)
        | '@' :: rest => do
            set rest
            discard (attempt skipStatement)
            rulesWithin fuel
        | _ :: _ => do
            let rules := (← attempt ruleSet).getD []
            let (others, isWhole) ← rulesWithin fuel
            pure (rules ++ others, isWhole)

/-- Rules in the order in which they apply: lighter ones first; those of one weight stay in order.
-/
def sortRules (rules : List Rule) : List Rule :=
  rules.mergeSort fun r s => r.selector.weight.atMost s.selector.weight

/-- Adds the rules of a style sheet to those before it. One that is broken off leaves them as they
come. -/
def addSheet (rules : List Rule) (text : String) : List Rule :=
  match ((rulesWithin text.length).scan text.toList).1 with
  | some (own, true) => sortRules (rules ++ own)
  | some (own, false) => rules ++ own
  | none => rules

def sheetText? : Xml.Node → Option String
  | .element _ name attributes (.text content :: _) =>
      if name.base = "style" && (attributes.lookup ⟨none, "type"⟩).all (· = "text/css") then
        some content
      else none
  | _ => none

def rules (root : Xml.Node) : List Rule :=
  (root.elements.filterMap sheetText?).foldl addSheet []

end Wireframe.Svg.Style
