import Wireframe.Svg.Style.Word

namespace Wireframe.Svg.Style

open Scanner

/-- An important declaration is not replaced by a later one. -/
structure Declaration where
  name : String
  value : String
  isImportant : Bool
  deriving DecidableEq, Repr

def isHexDigit (c : Char) : Bool :=
  c.isDigit || ('a' ≤ c && c ≤ 'f') || ('A' ≤ c && c ≤ 'F')

def startsNumber (c : Char) : Bool := c.isDigit || c = '+' || c = '-' || c = '.'

def numberRest : Scanner Unit := do
  discard (takeWhile Char.isDigit)
  if ← accept '.' then discard (takeWhile Char.isDigit)
  if ← accept '%' then pure () else discard (attempt identifier)

def term : Scanner Unit := do
  let c ← peek
  if c = '#' then do
    expect c
    if (← attempt identifier).isNone then discard (takeWhile isHexDigit)
  else if startsNumber c then do
    expect c
    numberRest
  else if isQuote c then discard quoted
  else if c = ',' then expect c
  else do
    discard identifier
    if (← get).head? = some '(' then do
      discard (takeWhile (· ≠ ')'))
      expect ')'

def termsWithin : Nat → List Char → Scanner (List Char)
  | 0, last => pure last
  | fuel + 1, last => do
      if (← attempt term).isSome then do
        let last ← get
        skipGaps
        termsWithin fuel last
      else pure last

def value : Scanner (List Char) := do
  let start ← get
  let last ← termsWithin start.length start
  pure (Text.trimChars (start.take (start.length - last.length)))

def importance : Scanner Bool := do
  if ← accept '!' then do
    skipGaps
    match Text.after? "important".toList (← get) with
    | some rest => do
        set rest
        pure true
    | none => pure false
  else pure false

def skipSemicolonsWithin : Nat → Scanner Unit
  | 0 => pure ()
  | fuel + 1 => do
      if ← accept ';' then do
        skipGaps
        skipSemicolonsWithin fuel

def declaration : Scanner Declaration := do
  skipGaps
  discard (accept '*')
  let name ← identifier
  skipGaps
  expect ':'
  skipGaps
  let value ← value
  skipGaps
  let isImportant ← importance
  skipGaps
  skipSemicolonsWithin (← get).length
  if value.isEmpty then failure
  else pure ⟨name, String.ofList value, isImportant⟩

/-- Passes over characters until as many braces are closed as were opened; `depth` is how many more
were opened so far. -/
def afterBlock (depth : Int) : List Char → List Char
  | [] => []
  | c :: cs =>
      let depth := if c = '{' then depth + 1 else if c = '}' then depth - 1 else depth
      if depth = 0 then cs else afterBlock depth cs

/-- The declarations of a block, of which there are no more than `fuel`. At a fault the rest of the
block is skipped. -/
def declarationsWithin : Nat → Scanner (List Declaration)
  | 0 => pure []
  | fuel + 1 => do
      match ← get with
      | [] | '}' :: _ => pure []
      | _ :: _ =>
          match ← attempt declaration with
          | some first => do pure (first :: (← declarationsWithin fuel))
          | none => do
              set (afterBlock 0 (← get))
              pure []

/-- The declarations of a style, of which there are no more than `fuel`. All that follows a fault is
left out. -/
def styleWithin : Nat → Scanner (List Declaration)
  | 0 => pure []
  | fuel + 1 => do
      discard (attempt skipGaps)
      match ← get with
      | [] => pure []
      | _ :: _ =>
          match ← attempt declaration with
          | some first => do pure (first :: (← styleWithin fuel))
          | none => pure []

def declarationsOf (style : String) : List Declaration :=
  ((styleWithin style.length).scan style.toList).1.getD []

end Wireframe.Svg.Style
