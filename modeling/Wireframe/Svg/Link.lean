import Wireframe.Svg.Number
import Wireframe.Text.Blank

namespace Wireframe.Svg

def plainTarget? (value : String) : Option String :=
  match skip value.toList with
  | '#' :: rest =>
      let (id, rest) := rest.span (· ≠ ' ')
      if !id.isEmpty && (skip rest).isEmpty then some (String.ofList id) else none
  | _ => none

def expect? (c : Char) (cs : List Char) : Option (List Char) :=
  match skip cs with
  | d :: rest => if d = c then some rest else none
  | [] => none

def checkId? (id : List Char) : Option String :=
  if id.isEmpty || id.contains '\'' || id.contains '"' then none else some (String.ofList id)

def quotedLink? (quote : Char) (cs : List Char) : Option (String × List Char) := do
  let rest ← Text.after? ['#'] (skip cs)
  let (id, rest) := rest.span (· ≠ quote)
  let id ← checkId? (Text.dropEndWhile Text.isBlank id)
  pure (id, ← (expect? quote rest).bind (expect? ')'))

def bracketLink? (cs : List Char) : Option (String × List Char) := do
  let rest ← Text.after? "url(".toList (skip cs)
  match skip rest with
  | '\'' :: rest => quotedLink? '\'' rest
  | '"' :: rest => quotedLink? '"' rest
  | rest => do
      let rest ← Text.after? ['#'] rest
      let (id, rest) := rest.span fun c => c ≠ ' ' && c ≠ ')'
      let id ← checkId? id
      pure (id, ← expect? ')' rest)

def bracketTarget? (text : String) : Option String :=
  (bracketLink? text.toList).bind fun (id, rest) => if (skip rest).isEmpty then some id else none

end Wireframe.Svg
