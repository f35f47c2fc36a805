import Wireframe.Svg.Property
import Wireframe.Svg.Template

namespace Wireframe.Svg

open Style (Declaration)

structure Assignment where
  name : String
  value : String
  isImportant : Bool
  deriving DecidableEq, Repr

abbrev Surroundings := List (List Assignment)

def assigned? (name : String) (assignments : List Assignment) : Option Assignment :=
  assignments.find? fun assignment => assignment.name = name

def Inheritance.inherited? (outer : Surroundings) (name : String) (inheritance : Inheritance) :
    Option Assignment :=
  let found := if inheritance.isDistant then outer.findSome? (assigned? name)
    else outer.head?.bind (assigned? name)
  found.or (inheritance.initial.map (⟨name, ·, false⟩))

def resolve? (outer : Surroundings) (assignment : Assignment) : Option Assignment :=
  match (property? assignment.name).bind Property.inheritance with
  | some inheritance =>
      if assignment.value = "inherit" then inheritance.inherited? outer assignment.name
      else some assignment
  | none => some assignment

/-- Sets an attribute in its place unless an important one is there, or behind the others. -/
def assign (assignment : Assignment) : List Assignment → List Assignment
  | [] => [assignment]
  | other :: rest =>
      if other.name = assignment.name then
        (if other.isImportant then other else assignment) :: rest
      else other :: assign assignment rest

def assignments (declaration : Declaration) : List Assignment :=
  let set (name value : String) : Assignment := ⟨name, value, declaration.isImportant⟩
  match declaration.name with
  | "marker" =>
      ["marker-start", "marker-mid", "marker-end"].map fun name => set name declaration.value
  | "font" => (sizeOfFont? declaration.value).toList.map (set "font-size")
  | name => if (property? name).isSome then [set name declaration.value] else []

def counts (space : Option String) : Bool :=
  match space with
  | none => true
  | some space => space = svgSpace || space = linkSpace || space = Xml.xmlSpace

/-- The attributes of an element after its declarations. In what is used elsewhere ids do not count,
since they would occur twice. -/
def assignmentsOf (outer : Surroundings) (used : Bool) (own : Xml.Attributes)
    (declarations : List Declaration) : List Assignment :=
  let plain := own.filterMap fun (key, value) =>
    if counts key.space && key.base ≠ "style" && key.base ≠ "class" &&
        !styleOnly.contains key.base && !(used && key.base = "id") then
      resolve? outer ⟨key.base, value, false⟩
    else none
  (declarations.flatMap assignments).foldl (fun all assignment =>
    match resolve? outer assignment with
    | some assignment => assign assignment all
    | none => all) plain

def target? (document : List Template) (id : String) : Option Template :=
  document.find? fun element => element.attributes.lookup ⟨none, "id"⟩ = some id

def linked? (document : List Template) (element : Template) : Option Template :=
  element.target?.bind (target? document)

/-- Whether using one element leads back to it: through an element inside the other, or because the
other is itself or `origin`, the one that it is used through. -/
def isRecursive (document : List Template) (origin : Option Nat) (user used : Template) : Bool :=
  used.number? = user.number? || used.number? = origin ||
    (Template.allOf (match used with
      | .element _ _ _ _ children => children
      | .blank => [])).any fun inner =>
        inner.tag? = some .use && (linked? document inner).any fun next =>
          next.number? = user.number? || next.number? = used.number?

def used? (document : List Template) (origin : Option Nat) (user : Template) : Option Template :=
  (linked? document user).filter fun used =>
    !isRecursive document origin user used && used.tag?.isSome

/-- An element with all that is in it; nothing if nodes nest deeper than `fuel`. Elements that are
not read are left out. -/
def expand (document : List Template) :
    Nat → Option Nat → Bool → Surroundings → Template → Option (List Element)
  | 0, _, _, _, _ => none
  | _ + 1, _, _, _, .blank => some []
  | fuel + 1, origin, used, outer, .element number tag own declarations children =>
      match tag with
      | none => some []
      | some tag => do
          let assignments := assignmentsOf outer used own declarations
          let inner := assignments :: outer
          let below ←
            match tag with
            | .text => some []
            | .use =>
                match used? document origin (.element number (some tag) own declarations children)
                with
                | none => some []
                | some target =>
                    match fuel with
                    | 0 => none
                    | fuel + 1 => expand document fuel (some number) true inner target
            | _ => (children.mapM (expand document fuel origin used inner)).map List.flatten
          pure [.mk number tag (assignments.map fun a => (a.name, a.value)) below]

/-- How deep nodes may nest; the level of a use counts twice. -/
def nestingLimit : Nat := 1025

def expanded? (root : Xml.Node) : Option Element := do
  let template := Template.ofNode (Style.rules root) none none root
  match ← expand template.withAll nestingLimit none false [] template with
  | [.mk key .svg attributes children] => pure (Element.mk key .svg attributes children)
  | _ => none

end Wireframe.Svg
