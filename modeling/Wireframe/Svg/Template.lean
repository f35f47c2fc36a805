import Wireframe.Svg.Element
import Wireframe.Svg.Link
import Wireframe.Svg.Style.Sheet
/-!
Elements as they are written, with the declarations of style sheets and styles that apply to them.
What an element is like in the end also depends on the elements around it, which differ where an
element is used more than once.
-/

namespace Wireframe.Svg

open Style (Declaration Rule Spot)

/-- A node of a document: a text or the like, or an element with its number, its tag if it is one
that is read, its attributes and its declarations. -/
inductive Template where
  | blank
  | element (number : Nat) (tag : Option Tag) (attributes : Xml.Attributes)
      (declarations : List Declaration) (children : List Template)

def svgSpace : String := Xml.standardName "2000/svg"

def linkSpace : String := Xml.standardName "1999/xlink"

namespace Template

def declarations (rules : List Rule) (spot : Spot) : List Declaration :=
  (rules.filter fun rule => rule.selector.selects spot).flatMap Rule.declarations ++
    match spot.attribute? "style" with
    | some style => Style.declarationsOf style
    | none => []

def spot? (before around : Option Spot) : Xml.Node → Option Spot
  | .element _ name attributes _ => some (.mk name.base attributes before around)
  | _ => none

mutual

def ofNode (rules : List Rule) (before around : Option Spot) : Xml.Node → Template
  | .element number name attributes children =>
      let spot := Spot.mk name.base attributes before around
      .element number (if name.space = some svgSpace then Tag.ofName? name.base else none)
        attributes (declarations rules spot) (ofNodes rules none (some spot) children)
  | _ => .blank

def ofNodes (rules : List Rule) (before around : Option Spot) : List Xml.Node → List Template
  | [] => []
  | node :: rest =>
      ofNode rules before around node ::
        ofNodes rules ((spot? before around node).or before) around rest

end

mutual

def withAll : Template → List Template
  | .element number tag attributes declarations children =>
      .element number tag attributes declarations children :: allOf children
  | .blank => []

def allOf : List Template → List Template
  | [] => []
  | node :: rest => node.withAll ++ allOf rest

end

def number? : Template → Option Nat
  | .element number _ _ _ _ => some number
  | .blank => none

def tag? : Template → Option Tag
  | .element _ tag _ _ _ => tag
  | .blank => none

def attributes : Template → Xml.Attributes
  | .element _ _ attributes _ _ => attributes
  | .blank => []

def target? (element : Template) : Option String :=
  ((element.attributes.lookup ⟨some linkSpace, "href"⟩).or
    (element.attributes.lookup ⟨none, "href"⟩)).bind plainTarget?

end Template

end Wireframe.Svg
