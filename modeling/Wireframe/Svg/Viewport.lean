import Wireframe.Svg.Shape
import Wireframe.Svg.Transform

namespace Wireframe.Svg

structure Rect where
  left : Float32
  top : Float32
  right : Float32
  bottom : Float32

namespace Rect

def at? (x y width height : Float32) : Option Rect :=
  let right := width + x
  let bottom := height + y
  if x.isFinite && y.isFinite && isPositive (right - x) && isPositive (bottom - y) then
    some ⟨x, y, right, bottom⟩
  else none

def width (r : Rect) : Float32 := r.right - r.left

def height (r : Rect) : Float32 := r.bottom - r.top

def size (r : Rect) : Size := ⟨r.width, r.height⟩

def union (r s : Rect) : Rect :=
  ⟨Binary.least r.left s.left, Binary.least r.top s.top, Binary.greatest r.right s.right,
    Binary.greatest r.bottom s.bottom⟩

def around? : List Rect → Option Rect
  | [] => none
  | r :: rest => some (rest.foldl union r)

def zero : Rect := ⟨0, 0, 0, 0⟩

def hasArea (r : Rect) : Bool := isPositive r.width && isPositive r.height

/-- The upright box around a transformed box; nothing if it is beyond all bounds. -/
def transform? (m : Matrix) (r : Rect) : Option Rect :=
  if m.isIdentity then some r
  else
    let corners := [(r.left, r.top), (r.right, r.top), (r.right, r.bottom), (r.left, r.bottom)].map
      fun (x, y) => m.apply ⟨x, y⟩
    if corners.all fun p => p.x.isFinite && p.y.isFinite then
      around? (corners.map fun p => ⟨p.x, p.y, p.x, p.y⟩)
    else none

end Rect

def isSize (size : Size) : Bool := isPositive size.width && isPositive size.height

/-- How a box is fitted into another: where it is put if it leaves room, and whether it must cover
the other or fit inside. Without an alignment it is stretched. -/
structure Fit where
  align : Option (Float32 × Float32)
  cover : Bool

namespace Fit

def standard : Fit := ⟨some (0.5, 0.5), false⟩

def alignment? (name : String) : Option (Option (Float32 × Float32)) :=
  match name with
  | "none" => some none
  | "xMinYMin" => some (some (0, 0))
  | "xMidYMin" => some (some (0.5, 0))
  | "xMaxYMin" => some (some (1, 0))
  | "xMinYMid" => some (some (0, 0.5))
  | "xMidYMid" => some (some (0.5, 0.5))
  | "xMaxYMid" => some (some (1, 0.5))
  | "xMinYMax" => some (some (0, 1))
  | "xMidYMax" => some (some (0.5, 1))
  | "xMaxYMax" => some (some (1, 1))
  | _ => none

def ofText? (text : String) : Option Fit := do
  let cs := skip text.toList
  let cs ← match Text.after? "defer".toList cs with
    | some (' ' :: rest) => some (skip rest)
    | some _ => none
    | none => some cs
  let (name, rest) := word cs
  let align ← alignment? (String.ofList name)
  match String.ofList (word (skip rest)).1 with
  | "" | "meet" => pure ⟨align, false⟩
  | "slice" => pure ⟨align, true⟩
  | _ => none

def ofSite (site : Site) : Fit :=
  ((site.attribute? "preserveAspectRatio").bind ofText?).getD standard

def shift (start room share : Float32) : Float32 :=
  if share == 0 then start else if share == 1 then start + room else start + room / 2

def position (fit : Fit) (x y roomX roomY : Float32) : Point :=
  match fit.align with
  | none => ⟨x, y⟩
  | some (shareX, shareY) => ⟨shift x roomX shareX, shift y roomY shareY⟩

def evenScale (fit : Fit) (sx sy : Float32) : Float32 :=
  if fit.cover then (if sx < sy then sy else sx) else (if sy < sx then sy else sx)

def transform (fit : Fit) (view : Rect) (size : Size) : Matrix :=
  let sx := size.width / view.width
  let sy := size.height / view.height
  let (sx, sy) := if fit.align.isNone then (sx, sy) else (fit.evenScale sx sy, fit.evenScale sx sy)
  let corner := fit.position (-view.left * sx) (-view.top * sy) (size.width - view.width * sx)
    (size.height - view.height * sy)
  ⟨sx, 0, 0, sy, corner.x, corner.y⟩

end Fit

def Rect.ofText? (text : String) : Option Rect :=
  match listNumbers? 4 text.toList with
  | some ([x, y, width, height], _) =>
      if width ≤ 0 ∨ height ≤ 0 then none
      else at? (Binary.narrow x) (Binary.narrow y) (Binary.narrow width) (Binary.narrow height)
  | _ => none

def viewBox? (site : Site) : Option Rect := (site.attribute? "viewBox").bind Rect.ofText?

end Wireframe.Svg
