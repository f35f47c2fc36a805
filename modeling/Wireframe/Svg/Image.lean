import Wireframe.Svg.Scope
import Wireframe.Svg.Viewport

namespace Wireframe.Svg

namespace ImageSize

def ofHighFirst (bytes : List Nat) : Nat := bytes.foldl (fun n byte => n * 256 + byte) 0

def numbers? (width : Nat) : Nat → List Nat → Option (List (List Nat))
  | 0, _ => some []
  | count + 1, bytes =>
      if bytes.length < width then none
      else (numbers? width count (bytes.drop width)).map (bytes.take width :: ·)

def highFirst? (start width : Nat) (bytes : List Nat) : Option (Nat × Nat) :=
  match numbers? width 2 (bytes.drop start) with
  | some [first, second] => some (ofHighFirst first, ofHighFirst second)
  | _ => none

def lowFirst? (start width : Nat) (bytes : List Nat) : Option (Nat × Nat) :=
  match numbers? width 2 (bytes.drop start) with
  | some [first, second] => some (ofHighFirst first.reverse, ofHighFirst second.reverse)
  | _ => none

def png? (bytes : List Nat) : Option (Nat × Nat) :=
  if bytes.take 8 = [137, 80, 78, 71, 13, 10, 26, 10] then highFirst? 16 4 bytes else none

def gif? (bytes : List Nat) : Option (Nat × Nat) :=
  if bytes.take 4 = [71, 73, 70, 56] then lowFirst? 6 2 bytes else none

def isFrame (kind : Nat) : Bool :=
  0xC0 ≤ kind && kind ≤ 0xCF && kind ≠ 0xC4 && kind ≠ 0xC8 && kind ≠ 0xCC

/-- The height and width in the first segment that describes the image; `fuel` bounds how many
segments there are. -/
def frame? : Nat → List Nat → Option (Nat × Nat)
  | 0, _ => none
  | fuel + 1, 0xFF :: kind :: high :: low :: rest =>
      if isFrame kind then highFirst? 1 2 rest
      else frame? fuel (rest.drop (high * 256 + low - 2))
  | _, _ => none

def jpeg? (bytes : List Nat) : Option (Nat × Nat) :=
  match bytes with
  | 0xFF :: 0xD8 :: 0xFF :: _ =>
      (frame? bytes.length (bytes.drop 2)).map fun (height, width) => (width, height)
  | _ => none

def webp? (bytes : List Nat) : Option (Nat × Nat) :=
  if bytes.take 4 = [82, 73, 70, 70] ∧ (bytes.drop 8).take 4 = [87, 69, 66, 80] then
    match bytes[15]? with
    | some 32 =>
        (lowFirst? 0x1A 2 bytes).map fun (width, height) => (width % 0x4000, height % 0x4000)
    | some 76 =>
        (numbers? 4 1 (bytes.drop 0x15)).bind fun numbers =>
          numbers.head?.map fun number =>
            let n := ofHighFirst number.reverse
            (n % 0x4000 + 1, n / 0x4000 % 0x4000 + 1)
    | some 88 =>
        (lowFirst? 0x18 3 bytes).map fun (width, height) => (width + 1, height + 1)
    | _ => none
  else none

def ofBytes? (bytes : List Nat) : Option Size :=
  if bytes.length < 12 then none
  else
    match (((png? bytes).or (gif? bytes)).or (jpeg? bytes)).or (webp? bytes) with
    | some (width, height) =>
        if width = 0 ∨ height = 0 then none
        else some ⟨Binary.singleOfInt width, Binary.singleOfInt height⟩
    | none => none

def mediaTypes : List String :=
  ["image/gif", "image/jpeg", "image/jpg", "image/png", "image/webp"]

end ImageSize

def imageBox (place : Place) (actual : Size) : Size :=
  match place.length? .width "width", place.length? .height "height" with
  | some width, some height => ⟨width, height⟩
  | some width, none => ⟨width, actual.height * (width / actual.width)⟩
  | none, some height => ⟨actual.width * (height / actual.height), height⟩
  | none, none => actual

def fitSize (fit : Fit) (actual box : Size) : Size :=
  match fit.align with
  | none => box
  | some _ =>
      let width := box.height * actual.width / actual.height
      let byWidth := if fit.cover then width ≤ box.width else box.width ≤ width
      if byWidth then ⟨box.width, box.width * actual.height / actual.width⟩
      else ⟨width, box.height⟩

/-- An image: a group where it would be, and one around it where it has to be cut off. It reaches as
far as its box would, drawn to the scale of the image. -/
def image? (scope : Scope) (site : Site) (transform : Matrix) : Option Figure := do
  let place := scope.place site
  let actual ← (site.attribute? "href").bind scope.imageSize?
  let size := imageBox place actual
  let box ← Rect.at? (place.length .width "x") (place.length .height "y") size.width size.height
  let fit := Fit.ofSite site
  let fitted := fitSize fit actual box.size
  let corner := fit.position box.left box.top (box.width - fitted.width)
    (box.height - fitted.height)
  let view ← Rect.at? corner.x corner.y fitted.width fitted.height
  let own : Matrix :=
    ⟨view.width / actual.width, 0, 0, view.height / actual.height, view.left, view.top⟩
  let reach ← box.transform? (transform.multiply own)
  let content := [Figure.image ⟨0, 0, actual.width, actual.height⟩ reach]
  let id := scope.idOf site
  if fit.cover then
    pure (.enclose id .identity 1 false [.enclose "" own 1 false content])
  else pure (.enclose id own 1 false content)

end Wireframe.Svg
