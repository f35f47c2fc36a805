import Wireframe.Text.Blank
import Wireframe.Xml.Token
/-!
The smallest parts of style sheets: blanks, comments, names and texts in quotes. What cannot be read
is skipped from where reading stopped, so a scanner that fails still tells what it left over.
-/

namespace Wireframe.Svg.Style

abbrev Scanner := OptionT (StateM (List Char))

namespace Scanner

def scan {α : Type} (scanner : Scanner α) (cs : List Char) : Option α × List Char :=
  StateT.run (OptionT.run scanner) cs

def attempt {α : Type} (scanner : Scanner α) : Scanner (Option α) :=
  (do pure (some (← scanner))) <|> pure none

def takeWhile (p : Char → Bool) : Scanner (List Char) := do
  let (before, after) := (← get).span p
  set after
  pure before

def accept (c : Char) : Scanner Bool := do
  match ← get with
  | d :: rest => if d = c then do set rest; pure true else pure false
  | [] => pure false

def expect (c : Char) : Scanner Unit := do
  if ← accept c then pure () else failure

def peek : Scanner Char := do
  match ← get with
  | c :: _ => pure c
  | [] => failure

end Scanner

open Scanner

def isBlank (c : Char) : Bool :=
  c = ' ' || c = '\t' || c = '\n' || c = '\r' || c = '\x0c'

def skipBlanks : Scanner Unit := discard (takeWhile isBlank)

def skipComment : Scanner Unit := do
  expect '/'
  expect '*'
  match Xml.upTo? ['*', '/'] (← get) with
  | some (_, rest) => set rest
  | none => do
      set ([] : List Char)
      failure

def skipGapsWithin : Nat → Scanner Unit
  | 0 => skipBlanks
  | fuel + 1 => do
      skipBlanks
      if (Text.after? ['/', '*'] (← get)).isSome then do
        skipComment
        skipGapsWithin fuel

def skipGaps : Scanner Unit := do
  skipGapsWithin (← get).length

def isNameStart (c : Char) : Bool := c.isAlpha || c = '_' || 237 < c.toNat

def isNameChar (c : Char) : Bool := isNameStart c || c.isDigit || c = '-'

/-- A name, perhaps with a hyphen before it. A hyphen alone is a name only at the very end. -/
def identifier : Scanner String := do
  let hyphen ← accept '-'
  let start := if hyphen then ['-'] else []
  match ← get with
  | [] => if hyphen then pure "-" else failure
  | c :: _ =>
      if isNameStart c then do pure (String.ofList (start ++ (← takeWhile isNameChar)))
      else failure

def isQuote (c : Char) : Bool := c = '"' || c = '\''

def untilQuote (quote : Char) : Bool → List Char → List Char × List Char
  | _, [] => ([], [])
  | escaped, c :: cs =>
      if c = quote && !escaped then ([], c :: cs)
      else
        let (before, after) := untilQuote quote (c = '\\') cs
        (c :: before, after)

def quoted : Scanner (List Char) := do
  let quote ← peek
  if isQuote quote then do
    expect quote
    let (content, rest) := untilQuote quote false (← get)
    set rest
    expect quote
    pure content
  else failure

end Wireframe.Svg.Style
