import Wireframe.Svg.DataLink
import Wireframe.Svg.Drawing
import Wireframe.Svg.Image

namespace Wireframe.Svg

/-- A side that nothing is said about is as long as the view or, without a view, as this many units.
-/
def defaultSide : Float := 100

def sideLength (site : Site) (view : Option Rect) (side : Side) (name : String) : Float32 :=
  let length := ((site.attribute? name).bind Length.ofText?).getD ⟨100, .percent⟩
  match view, length.unit with
  | some view, .percent =>
      let whole := if side = .width then view.width else view.height
      Binary.narrow (Binary.widen whole * length.number / 100)
  | some view, _ => length.toUser ⟨site, view.size⟩ side
  | none, .percent => Binary.narrow (length.number / 100 * defaultSide)
  | none, _ => length.toUser ⟨site, .square (Binary.narrow defaultSide)⟩ side

def isByContent (site : Site) (view : Option Rect) : Bool :=
  let isPercent (name : String) : Bool :=
    (((site.attribute? name).bind Length.ofText?).getD ⟨100, .percent⟩).unit = .percent
  view.isNone && (isPercent "width" || isPercent "height")

def declaredSize (site : Site) (view : Option Rect) : Size :=
  ⟨sideLength site view .width "width", sideLength site view .height "height"⟩

def Scope.ofRoot (root : Element) (view : Size) (imageSize? : String → Option Size) : Scope where
  index := .ofRoot root
  view
  givenSides := (none, none)
  isClip := false
  markers := []
  contextFill := none
  contextStroke := none
  imageSize?

/-- The size of a document and its figures. A document that leaves its size to its content is as
large as the content reaches. -/
def drawn? (imageSize? : String → Option Size) (root : Element) :
    Option (Size × List Figure) :=
  let site : Site := ⟨root, []⟩
  let view := viewBox? site
  let size := declaredSize site view
  if !isSize size then none
  else if !isShown site then some (size, [])
  else
    let box : Rect := view.getD ⟨0, 0, size.width, size.height⟩
    let whole := (Fit.ofSite site).transform box size
    let content := draw (painterOf (root.withAll.length + 1)) (.ofRoot root box.size imageSize?) []
      whole root
    let figures := if whole.isIdentity then content else [.enclose "" whole 1 false content]
    let reach := Figure.reachOf figures
    let reached : Size := ⟨reach.right, reach.bottom⟩
    some (if isByContent site view && isSize reached then reached else size, figures)

def textOfBytes? (bytes : List Nat) : Option String :=
  String.fromUTF8? ⟨(bytes.map UInt8.ofNat).toArray⟩

def documentSize? (bytes : List Nat) : Option Size := do
  let root ← root? (← textOfBytes? bytes)
  pure (← drawn? (fun _ => none) root).1

/-- The size of the image that a link holds. What is plain text may be anything. -/
def linkedSize? (link : String) : Option Size := do
  let link ← DataLink.ofText? link
  if ImageSize.mediaTypes.contains link.mediaType then ImageSize.ofBytes? link.bytes
  else if link.mediaType = "image/svg+xml" then documentSize? link.bytes
  else if link.mediaType = DataLink.plainType then
    (ImageSize.ofBytes? link.bytes).or (documentSize? link.bytes)
  else none

def vector? (root : Element) : Option (Size × Vector.Element) :=
  (drawn? linkedSize? root).map fun (size, figures) =>
    (size, .group "" none 1 (Figure.elementsOf none figures))

end Wireframe.Svg

namespace Wireframe.Vector

/-- The vector that markup draws, at a size of its own; nothing if the markup is broken. -/
def ofMarkup? (markup : String) (size : Size) : Option Vector := do
  let document ← Svg.root? markup
  let (viewBox, root) ← Svg.vector? document
  pure { size, viewBox, root, preserveColors := false }

end Wireframe.Vector
