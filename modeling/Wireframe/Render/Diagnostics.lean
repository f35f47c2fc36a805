import Wireframe.Component.Basic
import Wireframe.Font

namespace Wireframe

inductive BuildError where
  | invalidProps (error : PropsError)
  | font (error : Font.Unavailable)
  | missingIcon (name : String)
  | invalidMarkup (name : String)
  | depthExceeded (limit : Nat)
  deriving DecidableEq

def BuildError.message : BuildError → String
  | .invalidProps error => error.message
  | .font error => error.message
  | .missingIcon name => "icon \"" ++ name ++ "\" has no vector markup"
  | .invalidMarkup name => "vector markup for \"" ++ name ++ "\" could not be parsed"
  | .depthExceeded limit => "nesting deeper than " ++ toString limit ++ " levels"

structure BuildFailure where
  tag : String
  error : BuildError
  deriving DecidableEq

/-- Kinds of trouble that a user is told of, each at most once for a request. -/
inductive FailureClass where
  | nodeBuild
  | vector
  deriving DecidableEq, Repr

def FailureClass.word : FailureClass → String
  | .nodeBuild => "NodeBuild"
  | .vector => "Vector"

/-- Components built, failures in document order, names of icons whose markup is broken, tags of
unknown kinds, and entries passed over. -/
structure Diagnostics where
  built : Nat
  failures : List BuildFailure
  vectorFailures : List String
  unknownKinds : List String
  skipped : Nat
  deriving DecidableEq

namespace Diagnostics

def empty : Diagnostics := ⟨0, [], [], [], 0⟩

def append (first second : Diagnostics) : Diagnostics :=
  { built := first.built + second.built
    failures := first.failures ++ second.failures
    vectorFailures := first.vectorFailures ++ second.vectorFailures
    unknownKinds := first.unknownKinds ++ second.unknownKinds
    skipped := first.skipped + second.skipped }

instance : Append Diagnostics := ⟨append⟩

section

variable (first second third : Diagnostics)

@[simp] theorem built_append : (first ++ second).built = first.built + second.built := rfl

@[simp] theorem failures_append :
    (first ++ second).failures = first.failures ++ second.failures := rfl

@[simp] theorem vectorFailures_append :
    (first ++ second).vectorFailures = first.vectorFailures ++ second.vectorFailures := rfl

@[simp] theorem unknownKinds_append :
    (first ++ second).unknownKinds = first.unknownKinds ++ second.unknownKinds := rfl

@[simp] theorem skipped_append : (first ++ second).skipped = first.skipped + second.skipped := rfl

@[simp] theorem empty_append : empty ++ first = first := by
  change append empty first = first
  simp [append, empty]

@[simp] theorem append_empty : first ++ empty = first := by
  change append first empty = first
  simp [append, empty]

@[simp] theorem append_assoc : first ++ second ++ third = first ++ (second ++ third) := by
  change append (append first second) third = append first (append second third)
  simp [append, Nat.add_assoc]

end

def oneBuilt : Diagnostics := { empty with built := 1 }

def oneSkipped : Diagnostics := { empty with skipped := 1 }

def failure (tag : String) (error : BuildError) : Diagnostics :=
  { empty with failures := [⟨tag, error⟩] }

def vectorFailure (name : String) : Diagnostics := { empty with vectorFailures := [name] }

def unknownKind (tag : String) : Diagnostics := { empty with unknownKinds := [tag] }

def classes (diagnostics : Diagnostics) : List FailureClass :=
  (if diagnostics.failures.isEmpty then [] else [.nodeBuild]) ++
    (if diagnostics.vectorFailures.isEmpty then [] else [.vector])

def isClean (diagnostics : Diagnostics) : Bool :=
  diagnostics.failures.isEmpty && diagnostics.vectorFailures.isEmpty &&
    diagnostics.unknownKinds.isEmpty && diagnostics.skipped == 0

end Diagnostics

end Wireframe
