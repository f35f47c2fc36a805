import Wireframe.Scene.Style
/-!
Which faces can be used, and which one is used. A family is tried in the style asked for and then in
`Regular`; families are tried in order.
-/

namespace Wireframe

abbrev FontProvider := FontName → Bool

namespace Font

def styles : List FontStyle := [.regular, .medium, .bold]

def ofFaces (faces : List FontName) : FontProvider := fun font => faces.contains font

def family (name : String) : List FontName := styles.map fun style => ⟨name, style⟩

structure Unavailable where
  requested : String
  deriving DecidableEq, Repr

def Unavailable.message (error : Unavailable) : String :=
  "could not load any font for \"" ++ error.requested ++ "\""

def candidates (style : FontStyle) (family : String) : List FontName :=
  if style = .regular then [⟨family, .regular⟩] else [⟨family, style⟩, ⟨family, .regular⟩]

def chain (families : List String) (style : FontStyle) : List FontName :=
  families.flatMap (candidates style)

def resolve (fonts : FontProvider) (families : List String) (style : FontStyle) :
    Except Unavailable FontName :=
  match (chain families style).find? fonts with
  | some font => .ok font
  | none =>
      .error ⟨match families with
        | family :: _ => family ++ " " ++ style.word
        | [] => style.word⟩

inductive Slant where
  | normal
  | oblique
  | italic
  deriving DecidableEq, Repr

inductive Stretch where
  | ultraCondensed
  | extraCondensed
  | condensed
  | semiCondensed
  | normal
  | semiExpanded
  | expanded
  | extraExpanded
  | ultraExpanded
  deriving DecidableEq, Repr

structure Face where
  families : List String
  weight : Nat
  slant : Slant
  stretch : Stretch
  deriving DecidableEq, Repr

def Slant.order : List Slant := [.normal, .oblique, .italic]

/-- The widths as they stand in for the normal one, the best first: the narrower ones before the
wider ones, and of each the nearest first. -/
def Stretch.order : List Stretch :=
  [.normal, .semiCondensed, .condensed, .extraCondensed, .ultraCondensed, .semiExpanded, .expanded,
    .extraExpanded, .ultraExpanded]

def narrow {β : Type} [DecidableEq β] (feature : Face → β) (preferred : List β)
    (faces : List Face) : List Face :=
  match preferred.find? fun wanted => faces.any fun face => feature face = wanted with
  | some wanted => faces.filter fun face => feature face = wanted
  | none => []

/-- The faces of a family that a search for its upright faces of normal width considers: the width
nearest to normal, narrower before wider, and of these the slant nearest to upright. -/
def matching (database : List Face) (family : String) : List Face :=
  narrow Face.slant Slant.order
    (narrow Face.stretch Stretch.order
      (database.filter fun face => face.families.contains family))

def weight : FontStyle → Nat
  | .regular => 400
  | .medium => 500
  | .bold => 700

/-- The weight that a search settles on. From 400 to 500 the other weight of these two comes before
lighter ones and these before heavier ones; a wanted weight above 500 looks at heavier ones first.
-/
def settle (wanted : Nat) (weights : List Nat) : Option Nat :=
  let lighter := (weights.filter (· ≤ wanted)).max?
  let heavier := (weights.filter (wanted ≤ ·)).min?
  if weights.contains wanted then some wanted
  else if 400 ≤ wanted ∧ wanted < 450 ∧ weights.contains 500 then some 500
  else if 450 ≤ wanted ∧ wanted ≤ 500 ∧ weights.contains 400 then some 400
  else if wanted ≤ 500 then lighter.or heavier
  else heavier.or lighter

/-- The face that a search for an upright face of normal width ends at, given its family and weight:
the first one of the weight that it settles on. -/
def query (database : List Face) (family : String) (wanted : Nat) : Option Face := do
  let faces := matching database family
  let settled ← settle wanted (faces.map Face.weight)
  faces.find? fun face => face.weight = settled

/-- A style can be used if the face that the search ends at has exactly its weight. -/
def ofSearch (search : List Face → String → Nat → Option Face) (database : List Face) :
    FontProvider := fun font =>
  (search database font.family (weight font.style)).any fun face => face.weight = weight font.style

def ofDatabase : List Face → FontProvider := ofSearch query

end Font

end Wireframe
