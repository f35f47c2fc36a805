import Wireframe.Svg.Effect
import Wireframe.Svg.Image
import Wireframe.Svg.Marker
import Wireframe.Svg.Painting
import Wireframe.Svg.Shape
/-!
Elements drawn: each becomes the figures that it stands for, with those of the elements in it. What
links lead to is left to a painter, and in the end the painter is made of the drawing itself.
-/

namespace Wireframe.Svg

def isVisible (site : Site) : Bool :=
  match site.nearest? "visibility" with
  | some "hidden" | some "collapse" => false
  | _ => true

def markerTransforms (scope : Scope) (site marker : Site) (path : List Segment)
    (kind : MarkerKind) : List Matrix :=
  match strokeScale? scope marker site, markerBox? (scope.place marker) with
  | some scale, some box =>
      (kind.vertices (cubics .origin .origin path)).map (markerTransform marker box scale)
  | _, _ => []

def drawMarker (painter : Painter) (scope : Scope) (site : Site) (transform : Matrix)
    (path : List Segment) (kind : MarkerKind) : List Figure :=
  match marker? scope site kind with
  | none => []
  | some marker =>
      let scope := { scope with markers := marker.key :: scope.markers }
      (markerTransforms scope site marker path kind).flatMap fun own =>
        let content := painter.content scope marker (transform.multiply own)
        if content.isEmpty then [] else [.enclose "" own 1 false content]

def drawMarkers (painter : Painter) (scope : Scope) (site : Site) (transform : Matrix)
    (path : List Segment) (hasBox : Bool) (fill stroke : Option Coat) : List Figure :=
  if isVisible site && hasMarkers scope site then
    let marked (coat : Coat) : Coat := { coat with measure := .marked hasBox }
    let scope :=
      { scope with contextFill := fill.map marked, contextStroke := stroke.map marked }
    [.enclose "" .identity 1 false
      ([MarkerKind.start, .middle, .stop].flatMap
        (drawMarker painter scope site transform path))]
  else []

/-- A path that has a box, with its markers. It is out of sight if it has neither fill nor stroke or
is hidden. Where markers lie between fill and stroke, the path is drawn twice. -/
def drawIn (painter : Painter) (scope : Scope) (site : Site) (transform : Matrix)
    (path : List Segment) (box reach : Rect) : List Figure :=
  let size := boxSize path
  let hasBox := 0 < size.width && 0 < size.height
  let fill := (fill? painter scope site hasBox).map Coat.settle
  let stroke := (stroke? painter scope site hasBox).map fun (coat, width) => (coat.settle, width)
  let seen := isVisible site && (fill.isSome || stroke.isSome)
  let markers := drawMarkers painter scope site transform path box.hasArea fill
    (stroke.map Prod.fst)
  let whole : List Figure := [.path (scope.idOf site) path seen fill stroke box reach]
  let single : PathPart → List Figure
    | .fill => if fill.isSome then [.path "" path seen fill none box reach] else []
    | .stroke => if stroke.isSome then [.path "" path seen none stroke box reach] else []
    | .markers => markers
  match PathPart.order (site.nearest? "paint-order") with
  | .markers :: _ => markers ++ whole
  | [first, .markers, last] => single first ++ markers ++ single last
  | _ => whole ++ markers

def drawPath (painter : Painter) (scope : Scope) (site : Site) (transform : Matrix)
    (path : List Segment) : List Figure :=
  match extent? path with
  | none => []
  | some box =>
      match reach? transform path box with
      | none => []
      | some reach => drawIn painter scope site transform path box reach

def ownSize (place : Place) : Size :=
  let side (name : String) (side : Side) : Float32 :=
    (place.length? side name).getD ((⟨100, .percent⟩ : Length).toUser place side)
  ⟨side "width" .width, side "height" .height⟩

def innerSize (scope : Scope) (site : Site) : Size :=
  let own := ownSize (scope.place site)
  ⟨scope.givenSides.1.getD own.width, scope.givenSides.2.getD own.height⟩

def isCut (site : Site) : Bool :=
  site.attribute? "overflow" ≠ some "visible" && site.attribute? "overflow" ≠ some "auto"

def viewTransform (place : Place) (viewed : Site) (size : Size) : Matrix :=
  let start := Matrix.offset (place.length .width "x") (place.length .height "y")
  match viewBox? viewed with
  | some view =>
      if isSize size then start.multiply ((Fit.ofSite viewed).transform view size) else start
  | none => start

def boxOf? (place : Place) (size : Size) : Option Rect :=
  if isSize size then
    Rect.at? (place.length .width "x") (place.length .height "y") size.width size.height
  else none

/-- A document inside another. It is cut off at its edges if its sides are given; what reaches
beyond them is then measured in its own coordinates. -/
def drawInner (painter : Painter) (scope : Scope) (site : Site)
    (content : Scope → Matrix → List Figure) (transform : Matrix) : List Figure :=
  let place := scope.place site
  let own := place.transform
  let size := innerSize scope site
  let box := boxOf? place size
  let isSized := scope.givenSides.1.isSome || scope.givenSides.2.isSome ||
    ((site.attribute? "width").isSome && (site.attribute? "height").isSome)
  let view := match viewBox? site with
    | some view => view.size
    | none => (box.map Rect.size).getD scope.view
  let inner := { scope with view }
  let shift := viewTransform place site size
  let draw (transform shift : Matrix) : List Figure :=
    enclose painter scope site (!shift.isIdentity)
      (fun id opacity figures => .enclose id shift opacity false figures)
      (content inner ((transform.multiply shift).multiply own))
  if isCut site && isSized && box.isSome then
    [.enclose (scope.idOf site) own 1 false (draw .identity shift)]
  else draw transform (own.multiply shift)

def useScope (painter : Painter) (scope : Scope) (user : Site) : Scope :=
  let used (coat : Coat) : Coat := { coat with measure := .used }
  { scope with
    contextFill := (fill? painter scope user true).map used
    contextStroke := (stroke? painter scope user true).map (used ∘ Prod.fst) }

/-- A symbol, by the element that uses it. It is cut off at the edges of that element unless it says
otherwise; what reaches beyond them is then measured in the coordinates of that element. -/
def drawSymbol (painter : Painter) (scope : Scope) (user symbol : Site)
    (content : Matrix → List Figure) (transform : Matrix) : List Figure :=
  let place := scope.place user
  let own := place.transform
  let size := ownSize place
  let shift := viewTransform place symbol size
  let draw (transform shift : Matrix) : List Figure :=
    enclose painter scope symbol (!shift.isIdentity)
      (fun id opacity figures => .enclose id shift opacity false figures)
      (content ((transform.multiply shift).multiply (scope.place symbol).transform))
  let use (id : String → String) (isFrame : Bool) (figures : List Figure) : List Figure :=
    enclose painter scope user true
      (fun own opacity figures => .enclose (id own) .identity opacity isFrame figures) figures
  if isCut symbol && (boxOf? place size).isSome then
    let figures := use (fun _ => "") false (draw own shift)
    if figures.isEmpty then [] else [.enclose (scope.idOf user) own 1 true figures]
  else use (fun id => id) true (draw (transform.multiply own) (own.multiply shift))

def givenSides (place : Place) : Option Float32 × Option Float32 :=
  let given (name : String) (side : Side) : Option Float32 :=
    (place.attribute? name).map fun text =>
      ((Length.ofText? text).getD ⟨100, .percent⟩).toUser place side
  (given "width" .width, given "height" .height)

def drawUse (painter : Painter) (scope : Scope) (user : Site)
    (content : Matrix → List Figure) (transform : Matrix) : List Figure :=
  let place := scope.place user
  let own := place.transform
  let moved := own.multiply (.offset (place.length .width "x") (place.length .height "y"))
  enclose painter scope user true
    (fun id opacity figures => .enclose id moved opacity true figures)
    (content ((transform.multiply moved).multiply own))

mutual

def draw (painter : Painter) (scope : Scope) (outer : List Element) (transform : Matrix) :
    Element → List Figure
  | .mk key tag attributes children =>
      let site : Site := ⟨.mk key tag attributes children, outer⟩
      let own := (scope.place site).transform
      let inside := transform.multiply own
      let grouped := enclose painter scope site false
        (fun id opacity figures => .enclose id own opacity false figures)
      if !isShown site then []
      else
        match tag with
        | .use => drawUsed painter scope site transform children
        | .g => grouped (drawAll painter scope site.lineage inside children)
        | .switch =>
            match drawFirst painter scope site.lineage inside children with
            | some figures => grouped figures
            | none => []
        | .svg =>
            if outer.isEmpty then grouped (drawAll painter scope site.lineage inside children)
            else
              grouped (drawInner painter scope site
                (fun scope transform => drawAll painter scope site.lineage transform children)
                inside)
        | .image => grouped (image? scope site inside).toList
        | .circle | .ellipse | .line | .path | .polygon | .polyline | .rect | .text =>
            grouped (((shape? (scope.place site) tag).map
              (drawPath painter scope site inside)).getD [])
        | _ => []

def drawAll (painter : Painter) (scope : Scope) (outer : List Element) (transform : Matrix) :
    List Element → List Figure
  | [] => []
  | element :: rest =>
      draw painter scope outer transform element ++ drawAll painter scope outer transform rest

def drawFirst (painter : Painter) (scope : Scope) (outer : List Element) (transform : Matrix) :
    List Element → Option (List Figure)
  | [] => none
  | element :: rest =>
      if meetsConditions ⟨element, outer⟩ then some (draw painter scope outer transform element)
      else drawFirst painter scope outer transform rest

def drawUsed (painter : Painter) (scope : Scope) (user : Site) (transform : Matrix) :
    List Element → List Figure
  | [] => []
  | .mk key .symbol attributes children :: _ =>
      let inner := useScope painter scope user
      let symbol : Site := ⟨.mk key .symbol attributes children, user.lineage⟩
      drawSymbol painter inner user symbol
        (fun transform => drawAll painter inner symbol.lineage transform children) transform
  | element :: _ =>
      let inner := useScope painter scope user
      let inner :=
        if element.tag = .svg then { inner with givenSides := givenSides (scope.place user) }
        else inner
      drawUse painter inner user
        (fun transform => draw painter inner user.lineage transform element) transform

end

mutual

def clipDraw (painter : Painter) (scope : Scope) (outer : List Element) (transform : Matrix) :
    Element → List Figure
  | .mk key tag attributes children =>
      let site : Site := ⟨.mk key tag attributes children, outer⟩
      let own := (scope.place site).transform
      if !tag.isGraphic || !isShown site then []
      else
        match tag with
        | .use => clipDrawUsed painter scope site transform children
        | _ =>
            enclose painter scope site false
              (fun id opacity figures => .enclose id own opacity false figures)
              (if tag = .line then []
              else
                ((shape? (scope.place site) tag).map
                  (drawPath painter scope site (transform.multiply own))).getD [])

def clipDrawAll (painter : Painter) (scope : Scope) (outer : List Element) (transform : Matrix) :
    List Element → List Figure
  | [] => []
  | element :: rest =>
      clipDraw painter scope outer transform element ++
        clipDrawAll painter scope outer transform rest

def clipDrawUsed (painter : Painter) (scope : Scope) (user : Site) (transform : Matrix) :
    List Element → List Figure
  | [] | .mk _ .symbol _ _ :: _ => []
  | element :: _ =>
      drawUse painter scope user
        (fun transform => clipDraw painter scope user.lineage transform element) transform

end

/-- A painter that follows so many links from one element to the next. -/
def painterOf : Nat → Painter
  | 0 => .blank
  | links + 1 =>
      let painter := painterOf links
      { content := fun scope site transform =>
          drawAll painter scope site.lineage transform site.element.children
        clipContent := fun scope site transform =>
          clipDrawAll painter scope site.lineage transform site.element.children }

end Wireframe.Svg
