import Wireframe.Svg.FilterValue
import Wireframe.Svg.Origin
import Wireframe.Svg.Scope
/-!
What is done to an element as a whole: clip paths, masks, filters, opacity and blending, each of
which makes it a group of its own. A clip path, mask or filter that is there but does not work hides
the element.
-/

namespace Wireframe.Svg

def features : List String := [
  "SVGDOM-static", "SVG-static", "CoreAttribute", "Structure", "BasicStructure",
  "ContainerAttribute", "ConditionalProcessing", "Image", "Style", "Shape", "Text", "BasicText",
  "PaintAttribute", "BasicPaintAttribute", "OpacityAttribute", "BasicGraphicsAttribute", "Marker",
  "Gradient", "Pattern", "Clip", "BasicClip", "Mask", "Filter", "BasicFilter", "XlinkAttribute"]

def featureName (feature : String) : String := Xml.standardName "TR/SVG11/feature#" ++ feature

def hasFeatures (list : String) : Bool :=
  (Style.splitAt ' ' list.toList).all fun feature =>
    (features.map featureName).contains (String.ofList feature)

def speaks (languages : String) : Bool :=
  (Style.splitAt ',' languages.toList).any fun language =>
    (Text.trimChars language).takeWhile (· ≠ '-') = ['e', 'n']

def meetsConditions (site : Site) : Bool :=
  (site.attribute? "requiredExtensions").isNone &&
    (site.attribute? "requiredFeatures").all hasFeatures &&
    (site.attribute? "systemLanguage").all speaks

/-- Whether an element is drawn at all: it is displayed, its transform does not shrink it to
nothing, and its conditions hold. -/
def isShown (site : Site) : Bool :=
  site.attribute? "display" ≠ some "none" &&
    ((site.attribute? "transform").bind transform?).all Matrix.isUsable && meetsConditions site

/-- Whether a clip path works: it draws something, and so does its own clip path; `fuel` bounds how
many there are. One that is measured by the box of what it clips needs the box. -/
def clips (painter : Painter) (scope : Scope) (hasBox : Bool) : Nat → Site → Bool
  | 0, _ => false
  | fuel + 1, site =>
      site.tag = .clipPath &&
        ((site.attribute? "transform").all fun text => (transform? text).any Matrix.isUsable) &&
        (scope.index.linked? site "clip-path").all (clips painter scope hasBox fuel) &&
        (hasBox || !usesBox (site.attribute? "clipPathUnits") false) &&
        painter.drawsClip scope site

/-- Whether a mask works: it has a region and content, and so has its own mask; `fuel` bounds how
many there are. What has no box is masked as a whole by a mask that is measured by it. -/
def masks (painter : Painter) (scope : Scope) (hasBox : Bool) : Nat → Site → Bool
  | 0, _ => false
  | fuel + 1, site =>
      let byBox := usesBox (site.attribute? "maskUnits") true
      let contentByBox := usesBox (site.attribute? "maskContentUnits") false
      site.tag = .mask &&
        (region? scope [] site byBox ⟨-10, .percent⟩ ⟨120, .percent⟩).isSome &&
        ((!hasBox && (byBox || contentByBox)) ||
          ((scope.index.linked? site "mask").all (masks painter scope hasBox fuel) &&
            painter.draws scope site))

def filters (scope : Scope) (hasBox : Bool) (site : Site) : Bool :=
  let chain := scope.index.chain (· = .filter) site
  let byBox := usesBox (chainAttribute? chain "filterUnits") true
  (hasBox || !byBox) &&
    (region? scope chain site byBox ⟨-10, .percent⟩ ⟨120, .percent⟩).isSome &&
    (chain.find? fun link => !link.element.children.isEmpty).any fun link =>
      link.element.children.any fun child => child.tag = .filterStep

def FilterValue.applies? (scope : Scope) (hasBox : Bool) : FilterValue → Option Bool
  | .function => some hasBox
  | .link id => if (scope.index.site? id).any (filters scope hasBox) then some true else none

/-- Whether filters apply; nothing if some do not work and none applies. A malformed list means
none. -/
def filterEffect? (scope : Scope) (hasBox : Bool) (site : Site) : Option Bool :=
  match site.attribute? "filter" with
  | none | some "none" => some false
  | some text =>
      let applied := ((FilterValue.list? text).getD []).map (FilterValue.applies? scope hasBox)
      if applied.contains (some true) then some true
      else if applied.contains none then none
      else some false

def blendModes : List String :=
  ["multiply", "screen", "overlay", "darken", "lighten", "color-dodge", "color-burn", "hard-light",
    "soft-light", "difference", "exclusion", "hue", "saturation", "color", "luminosity"]

def isBlended (site : Site) : Bool :=
  (site.attribute? "mix-blend-mode").any blendModes.contains ||
    site.attribute? "isolation" = some "isolate"

def linkEffect? (scope : Scope) (works : Nat → Site → Bool) (site : Site) (name : String) :
    Option Bool :=
  match scope.index.linked? site name with
  | none => some false
  | some target => if works (scope.index.length + 1) target then some true else none

/-- Whether an effect applies to an element; nothing if one hides it. In a clip path only other clip
paths count. -/
def effect? (painter : Painter) (scope : Scope) (hasBox : Bool) (site : Site) : Option Bool := do
  let clipped ← linkEffect? scope (clips painter scope hasBox) site "clip-path"
  if scope.isClip then pure (clipped || isBlended site)
  else
    let masked ← linkEffect? scope (masks painter scope hasBox) site "mask"
    let filtered ← filterEffect? scope hasBox site
    pure (clipped || masked || filtered || isBlended site)

def opacityOf (scope : Scope) (site : Site) : Float32 :=
  if scope.isClip then 1 else ((site.attribute? "opacity").bind opacity?).getD 1

def isOpaque (opacity : Float32) : Bool := 0x3F7FFFFC ≤ opacity.toBits

/-- The figures of an element with its effects: none if an effect hides it, and a group of them,
which `group` makes of its id and its opacity, if it needs to be one or is `forced`. Only groups
that are written as such, and elements that use others, show their ids. -/
def enclose (painter : Painter) (scope : Scope) (site : Site) (forced : Bool)
    (group : String → Float32 → List Figure → Figure) (children : List Figure) : List Figure :=
  match effect? painter scope (Figure.boxOf children).hasArea site with
  | none => []
  | some applied =>
      let opacity := opacityOf scope site
      let showsId := site.tag = .g || site.tag = .use
      if applied || forced || showsId || !isOpaque opacity ||
          !(scope.place site).transform.isIdentity then
        [group (if showsId then scope.idOf site else "") opacity children]
      else children

end Wireframe.Svg
