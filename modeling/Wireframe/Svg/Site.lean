import Wireframe.Svg.Cycle

namespace Wireframe.Svg

structure Site where
  element : Element
  outer : List Element

def owner? (name : String) : List Element → Option Site
  | [] => none
  | element :: outer =>
      if (element.attribute? name).isSome then some ⟨element, outer⟩ else owner? name outer

namespace Site

def key (site : Site) : Nat := site.element.key

def tag (site : Site) : Tag := site.element.tag

def attribute? (site : Site) (name : String) : Option String := site.element.attribute? name

def lineage (site : Site) : List Element := site.element :: site.outer

def owner? (site : Site) (name : String) : Option Site := Svg.owner? name site.lineage

def nearest? (site : Site) (name : String) : Option String :=
  (site.owner? name).bind fun owner => owner.attribute? name

def children (site : Site) : List Site :=
  site.element.children.map fun child => ⟨child, site.lineage⟩

end Site

mutual

def Element.sites (outer : List Element) : Element → List Site
  | .mk key tag attributes children =>
      ⟨.mk key tag attributes children, outer⟩ ::
        sitesOf (.mk key tag attributes children :: outer) children

def sitesOf (outer : List Element) : List Element → List Site
  | [] => []
  | element :: rest => element.sites outer ++ sitesOf outer rest

end

abbrev Index := List (String × Site)

namespace Index

def ofRoot (root : Element) : Index :=
  (root.sites []).reverse.filterMap fun site => (site.attribute? "id").map (·, site)

def site? (index : Index) (id : String) : Option Site := List.lookup id index

def linked? (index : Index) (site : Site) (name : String) : Option Site :=
  ((site.attribute? name).bind bracketTarget?).bind index.site?

def nearestLinked? (index : Index) (site : Site) (name : String) : Option Site :=
  ((site.nearest? name).bind bracketTarget?).bind index.site?

/-- The elements of a kind that lead from one to the next by plain links, of which there are no more
than `fuel`. None leads back to the first. -/
def chainFrom (index : Index) (isKind : Tag → Bool) (first : Nat) : Nat → Site → List Site
  | 0, _ => []
  | fuel + 1, site =>
      if isKind site.tag then
        site ::
          match ((site.attribute? "href").bind plainTarget?).bind index.site? with
          | some next =>
              if next.key = site.key || next.key = first then []
              else index.chainFrom isKind first fuel next
          | none => []
      else []

def chain (index : Index) (isKind : Tag → Bool) (site : Site) : List Site :=
  index.chainFrom isKind site.key (index.length + 1) site

end Index

def chainOwner? (chain : List Site) (name : String) : Option Site :=
  chain.find? fun site => (site.attribute? name).isSome

end Wireframe.Svg
