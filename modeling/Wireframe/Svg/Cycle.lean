import Wireframe.Svg.Expansion
import Wireframe.Svg.PaintValue
/-!
Links that lead back to the element that they are in, directly or through one other element. They
are cut, so that what links lead to can be drawn without end in sight.
-/

namespace Wireframe.Svg

def elementOf? (all : List Element) (id : String) : Option Element :=
  if id = "" then none else all.reverse.find? fun element => element.attribute? "id" = some id

structure LinkKind where
  tag : Tag
  name : String
  /-- The id that a value links to. -/
  target? : String → Option String
  /-- Whether only the id counts: the elements of one id are one, and elements of all kinds may lead
  back. -/
  isById : Bool

namespace LinkKind

def fill : LinkKind := ⟨.pattern, "fill", PaintValue.target?, true⟩

def stroke : LinkKind := ⟨.pattern, "stroke", PaintValue.target?, true⟩

def clip : LinkKind := ⟨.clipPath, "clip-path", bracketTarget?, false⟩

def mask : LinkKind := ⟨.mask, "mask", bracketTarget?, false⟩

def filter : LinkKind := ⟨.filter, "filter", bracketTarget?, false⟩

def id? (kind : LinkKind) (element : Element) : Option String :=
  (element.attribute? kind.name).bind kind.target?

def linksTo (kind : LinkKind) (all : List Element) (target element : Element) : Bool :=
  (kind.id? element).any fun id =>
    if kind.isById then target.attribute? "id" = some id
    else (elementOf? all id).any fun next => next.key = target.key

/-- The element that leads back, if an element is linked to itself: the element, or one that it
links to or one in that. -/
def leadsBack? (kind : LinkKind) (all : List Element) (target element : Element) :
    Option Element :=
  if kind.linksTo all target element then some element
  else
    match (kind.id? element).bind (elementOf? all) with
    | some next =>
        if kind.isById || next.tag = kind.tag then next.withAll.find? (kind.linksTo all target)
        else none
    | none => none

def recursive? (kind : LinkKind) (all : List Element) : Option Element :=
  (all.filter fun element => element.tag = kind.tag).findSome? fun element =>
    element.withAll.findSome? (kind.leadsBack? all element)

end LinkKind

def setFirst (name value : String) : Attributes → Attributes
  | [] => []
  | (other, old) :: rest =>
      if other = name then (name, value) :: rest else (other, old) :: setFirst name value rest

namespace Element

mutual

def setAt (key : Nat) (name value : String) : Element → Element
  | .mk own tag attributes children =>
      .mk own tag (if own = key then setFirst name value attributes else attributes)
        (setAtAll key name value children)

def setAtAll (key : Nat) (name value : String) : List Element → List Element
  | [] => []
  | element :: rest => element.setAt key name value :: setAtAll key name value rest

end

/-- Cuts recursive links of a kind; `fuel` bounds how many there are. -/
def cutLinks (kind : LinkKind) : Nat → Element → Element
  | 0, root => root
  | fuel + 1, root =>
      match kind.recursive? root.withAll with
      | some element => cutLinks kind fuel (root.setAt element.key kind.name "none")
      | none => root

def withoutCycles (root : Element) : Element :=
  [LinkKind.fill, .stroke, .clip, .mask, .filter].foldl
    (fun root kind => root.cutLinks kind root.withAll.length) root

end Element

def root? (text : String) : Option Element := do
  let root ← expanded? (← Xml.Node.ofText? text)
  pure (root.numbered 0).1.withoutCycles

end Wireframe.Svg
