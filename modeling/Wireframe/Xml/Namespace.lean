import Wireframe.Xml.Token

namespace Wireframe.Xml

structure Name where
  space : Option String
  base : String
  deriving DecidableEq, Repr

abbrev Attributes := List (Name × String)

/-- Name spaces by qualifier, the innermost first; the empty qualifier has the default one. -/
abbrev Scope := List (String × String)

def standardName (path : String) : String := "http://www.w3.org/" ++ path

def xmlSpace : String := standardName "XML/1998/namespace"

def declarationSpace : String := standardName "2000/xmlns/"

def declared? (name : RawName) : Option String :=
  if name.qualifier = "xmlns" then some name.base
  else if name.base = "xmlns" then some ""
  else none

/-- Adds a declaration to those of the same tag. The name space of XML has a qualifier of its own
and no other, and no qualifier is declared twice; of two defaults the first counts. -/
def declare? (declarations : Scope) (qualifier space : String) : Option Scope :=
  if space = declarationSpace then none
  else if qualifier = "xml" then if space = xmlSpace then some declarations else none
  else if space = xmlSpace then none
  else if qualifier ≠ "" ∧ (declarations.lookup qualifier).isSome then none
  else some (declarations ++ [(qualifier, space)])

def Scope.enter (scope : Scope) (attributes : List (RawName × String)) : Option Scope := do
  let declarations ← attributes.foldlM (fun declarations (name, value) =>
    match declared? name with
    | some qualifier => declare? declarations qualifier value
    | none => some declarations) []
  pure (declarations ++ scope)

/-- The name space of a qualifier. Without a default, a name without a qualifier has none. -/
def Scope.space? (scope : Scope) (qualifier : String) : Option (Option String) :=
  match scope.lookup qualifier with
  | some space => some (some space)
  | none => if qualifier = "" then some none else none

def Scope.elementName? (scope : Scope) (name : RawName) : Option Name :=
  (scope.space? name.qualifier).map fun space => ⟨space, name.base⟩

def Scope.attributeName? (scope : Scope) (name : RawName) : Option Name :=
  match name.qualifier with
  | "" => some ⟨none, name.base⟩
  | "xml" => some ⟨some xmlSpace, name.base⟩
  | _ => scope.elementName? name

def Scope.attributes? (scope : Scope) (attributes : List (RawName × String)) :
    Option Attributes := do
  let named ← (attributes.filter fun (name, _) => (declared? name).isNone).mapM
    fun (name, value) => (scope.attributeName? name).map (·, value)
  if (named.map Prod.fst).Nodup then some named else none

end Wireframe.Xml
