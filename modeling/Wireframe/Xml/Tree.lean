import Wireframe.Xml.Namespace
import Wireframe.Xml.Prolog
/-!
XML documents as trees. Tags are matched, qualifiers of names are replaced by the name spaces that
they stand for, and entities by what they stand for, be it text or markup.
-/

namespace Wireframe.Xml

/-- `aside` is a comment or a processing instruction. Elements are numbered in document order, so a
number says which element of a document is meant. -/
inductive Node where
  | text (content : String)
  | aside
  | element (number : Nat) (name : Name) (attributes : Attributes) (children : List Node)

def entityLimit : Nat := 10

def usesLimit : Nat := 255

/-- Counts the use of an entity; only those inside of another count. -/
def countUse? (nested : Bool) (uses : Nat) : Option Nat :=
  if !nested then some uses else if uses < usesLimit then some (uses + 1) else none

def usesAfter (nested : Bool) (uses : Nat) : Nat := if nested then uses else 0

def normalSpace (c : Char) : Char := if isSpace c then ' ' else c

/-- The characters of a value, and how many entities have been used since the outermost one. A line
break of two characters counts as one. Characters that a reference stands for stay as they are; in
an entity they count as written, and none opens a tag. -/
def valueOf (enter : String → Nat → Option (List Char × Nat)) (nested : Bool) :
    Nat → List Piece → Option (List Char × Nat)
  | uses, [] => some ([], uses)
  | uses, .plain c :: rest => do
      let (cs, uses) ← valueOf enter nested uses rest
      pure (if c = '\r' ∧ rest.head? = some (.plain '\n') then cs else normalSpace c :: cs, uses)
  | uses, .escaped c :: rest => do
      let (cs, uses) ← valueOf enter nested uses rest
      if nested ∧ c = '<' then none
      else pure ((if nested then normalSpace c else c) :: cs, uses)
  | uses, .entity name :: rest => do
      let (own, uses) ← enter name uses
      let (cs, uses) ← valueOf enter nested uses rest
      pure (own ++ cs, uses)

def entityValue? (entities : Entities) : Nat → Bool → String → Nat → Option (List Char × Nat)
  | 0, _, _, _ => none
  | level + 1, nested, name, uses => do
      let pieces ← pieces? (← entities.lookup name) none
      let uses ← countUse? nested uses
      let (cs, uses) ← valueOf (entityValue? entities level true) true uses pieces
      pure (cs, usesAfter nested uses)

structure OpenElement where
  number : Nat
  rawName : RawName
  name : Name
  attributes : Attributes
  scope : Scope
  children : List Node

def OpenElement.node (element : OpenElement) : Node :=
  .element element.number element.name element.attributes element.children.reverse

/-- A tree under construction: the open elements, the innermost first; the nodes outside of all
elements, in reverse; attributes of tags that were cut off, which the next tag gets; whether a text
joins the one before it; how many elements there are; and how many entities have been used since the
outermost one. -/
structure Builder where
  stack : List OpenElement
  roots : List Node
  pending : List (RawName × String)
  joins : Bool
  count : Nat
  uses : Nat

namespace Builder

def empty : Builder := ⟨[], [], [], false, 0, 0⟩

def modify (change : List Node → List Node) (b : Builder) : Builder :=
  match b.stack with
  | [] => { b with roots := change b.roots }
  | element :: outer =>
      { b with stack := { element with children := change element.children } :: outer }

def addText (content : List Char) (b : Builder) : Builder :=
  let joined (nodes : List Node) : List Node :=
    match b.joins, nodes with
    | true, .text before :: rest => .text (before ++ String.ofList content) :: rest
    | _, nodes => .text (String.ofList content) :: nodes
  { b.modify joined with joins := true }

def flush (collected : List Char) (b : Builder) : Builder :=
  if collected.isEmpty then b else b.addText collected.reverse

def scope (b : Builder) : Scope :=
  match b.stack with
  | element :: _ => element.scope
  | [] => []

def attributes? (b : Builder) : Option (Scope × Attributes) := do
  let scope ← b.scope.enter b.pending
  pure (scope, ← scope.attributes? b.pending)

def startTag? (name : RawName) (ending : TagEnd) (b : Builder) : Option Builder :=
  match ending with
  | .cut => some b
  | _ => do
      let (scope, attributes) ← b.attributes?
      let element : OpenElement :=
        ⟨b.count, name, ← scope.elementName? name, attributes, scope, []⟩
      let b := { b with pending := [], count := b.count + 1 }
      if ending = .opened then pure { b with stack := element :: b.stack }
      else pure (b.modify (element.node :: ·))

def endTag? (name : RawName) (b : Builder) : Option Builder := do
  let _ ← b.attributes?
  match b.stack with
  | element :: outer =>
      if name = element.rawName then
        pure ({ b with stack := outer, pending := [] }.modify (element.node :: ·))
      else none
  | [] => none

end Builder

/-- Collects a character of a text, the last first. Every line break becomes one character, also one
at the end of the text. -/
def pushLine (collected : List Char) (c : Char) (isLast : Bool) : List Char :=
  let c' := if isLast && c = '\r' then '\n' else c
  match collected with
  | '\r' :: before => if c = '\n' then '\n' :: before else c' :: '\n' :: before
  | _ => c' :: collected

def pushLines (collected : List Char) : List Char → List Char
  | [] => collected
  | c :: rest => pushLines (pushLine collected c rest.isEmpty) rest

/-- Reads a text. What a reference stands for, and a character behind it, is kept as it is unless it
stands in an entity. -/
def addPieces? (enter : String → Builder → Option Builder) (nested : Bool) :
    Builder → List Char → Bool → List Piece → Option Builder
  | b, collected, _, [] => some (b.flush collected)
  | b, collected, kept, .plain c :: rest =>
      let collected := if kept then c :: collected else pushLine collected c rest.isEmpty
      addPieces? enter nested b collected false rest
  | b, collected, _, .escaped c :: rest =>
      let collected := if nested then pushLine collected c rest.isEmpty else c :: collected
      addPieces? enter nested b collected (!nested) rest
  | b, collected, _, .entity name :: rest => do
      let b ← enter name (b.flush collected)
      addPieces? enter nested b [] false rest

def addAttributes? (value : Nat → List Piece → Option (List Char × Nat)) :
    Builder → List (RawName × List Piece) → Option Builder
  | b, [] => some b
  | b, (name, pieces) :: rest => do
      let (cs, uses) ← value b.uses pieces
      addAttributes? value
        { b with pending := b.pending ++ [(name, String.ofList cs)], uses } rest

def addToken? (enter : String → Builder → Option Builder)
    (value : Nat → List Piece → Option (List Char × Nat)) (nested : Bool) (b : Builder) :
    Token → Option Builder
  | .startTag name attributes ending => do
      if name.qualifier = "xmlns" then none
      else
        let b ← addAttributes? value { b with joins := false } attributes
        b.startTag? name ending
  | .endTag name => { b with joins := false }.endTag? name
  | .text pieces => addPieces? enter nested b [] false pieces
  | .verbatim content => some (b.addText (pushLines [] content).reverse)
  | .aside => some { b.modify (.aside :: ·) with joins := false }

def addEntity? (entities : Entities) : Nat → Bool → String → Builder → Option Builder
  | 0, _, _, _ => none
  | level + 1, nested, name, b => do
      let tokens ← fragment? (← entities.lookup name)
      let uses ← countUse? nested b.uses
      let b ← tokens.foldlM
        (addToken? (addEntity? entities level true)
          (valueOf (entityValue? entities level true) true) true)
        { b with uses }
      pure { b with uses := usesAfter nested b.uses }

namespace Node

def isElement : Node → Bool
  | .element .. => true
  | _ => false

def ofText? (text : String) : Option Node := do
  let (entities, tokens) ← tokens? text
  let b ← tokens.foldlM
    (addToken? (addEntity? entities entityLimit false)
      (valueOf (entityValue? entities entityLimit false) false) false)
    .empty
  if b.stack.isEmpty then b.roots.reverse.find? isElement else none

def attribute? (base : String) : Node → Option String
  | .element _ _ attributes _ => attributes.lookup ⟨none, base⟩
  | _ => none

mutual

def elements : Node → List Node
  | .element number name attributes children =>
      .element number name attributes children :: elementsOf children
  | _ => []

def elementsOf : List Node → List Node
  | [] => []
  | node :: rest => node.elements ++ elementsOf rest

end

end Node

end Wireframe.Xml
