import Wireframe.Svg.Scope

namespace Wireframe.Svg

structure Stop where
  ink : Ink
  opacity : Float32

/-- What a link comes to: a picture, measured or drawn by shares of the box of the shape; one
colour; nothing, so that another paint stands in; or an element that cannot paint. -/
inductive Server where
  | picture (byBox contentByBox : Bool)
  | ink (ink : Ink) (opacity : Float32)
  | missing
  | unfit

def currentInk (site : Site) : Ink := ((site.nearest? "color").bind Ink.ofText?).getD .black

def stopInk (site : Site) : Ink :=
  match site.attribute? "stop-color" with
  | some "currentColor" => currentInk site
  | some text => (Ink.ofText? text).getD .black
  | none => .black

def Stop.ofSite (site : Site) : Stop :=
  let ink := stopInk site
  let opacity := ((site.attribute? "stop-opacity").bind opacity?).getD 1
  ⟨ink, ink.opacity * opacity⟩

def stopsOf (site : Site) : List Stop :=
  (site.children.filter fun child => child.tag = .stop).map Stop.ofSite

def radius (scope : Scope) (chain : List Site) (site : Site) (byBox : Bool) : Float32 :=
  let radials := chain.takeWhile fun link => link.tag = .radialGradient
  (scope.place ((chainOwner? radials "r").getD site)).boxLength byBox .across ⟨50, .percent⟩ "r"

/-- What a gradient paints with. One stop alone is its colour, and so is the last stop of a radial
gradient without radius. -/
def gradientServer (scope : Scope) (site : Site) : Server :=
  let chain := scope.index.chain Tag.isGradient site
  let byBox := usesBox (chainAttribute? chain "gradientUnits") true
  let lists := (chain.map stopsOf).filter fun stops => !stops.isEmpty
  match lists.head?.getD [] with
  | [] => .missing
  | [stop] => .ink stop.ink stop.opacity
  | first :: rest =>
      if site.tag = .radialGradient && !isPositive (radius scope chain site byBox) then
        let last := rest.getLast?.getD first
        .ink last.ink last.opacity
      else .picture byBox false

def patternServer (painter : Painter) (scope : Scope) (site : Site) : Server :=
  let chain := scope.index.chain (· = .pattern) site
  let byBox := usesBox (chainAttribute? chain "patternUnits") true
  let contentByBox := usesBox (chainAttribute? chain "patternContentUnits") false
  match chain.find? fun link => !link.element.children.isEmpty with
  | none => .missing
  | some content =>
      if (region? scope chain site byBox ⟨0, .user⟩ ⟨0, .user⟩).isSome &&
          painter.draws scope content then
        .picture byBox contentByBox
      else .missing

def server (painter : Painter) (scope : Scope) (id : String) : Server :=
  match scope.index.site? id with
  | none => .missing
  | some site =>
      match site.tag with
      | .linearGradient | .radialGradient => gradientServer scope site
      | .pattern => patternServer painter scope site
      | _ => .unfit

end Wireframe.Svg
