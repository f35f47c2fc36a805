import Wireframe.Svg.Place
import Wireframe.Svg.Transform

namespace Wireframe.Svg

inductive OriginPart where
  | left
  | right
  | top
  | bottom
  | center
  | length (distance : Length)

namespace OriginPart

def names : List (String × OriginPart) :=
  [("top", .top), ("right", .right), ("bottom", .bottom), ("left", .left), ("center", .center)]

def read? (cs : List Char) : Option (OriginPart × List Char) :=
  let cs := skip cs
  match names.findSome? fun (name, part) => (Text.after? name.toList cs).map (part, ·) with
  | some found => some found
  | none => (Length.read? cs).map fun (distance, rest) => (.length distance, rest)

def across? : OriginPart → Option Length
  | .left => some ⟨0, .percent⟩
  | .center => some ⟨50, .percent⟩
  | .right => some ⟨100, .percent⟩
  | .length distance => some distance
  | _ => none

def down? : OriginPart → Option Length
  | .top => some ⟨0, .percent⟩
  | .center => some ⟨50, .percent⟩
  | .bottom => some ⟨100, .percent⟩
  | .length distance => some distance
  | _ => none

def isLength : OriginPart → Bool
  | .length _ => true
  | _ => false

end OriginPart

def originParts? : Nat → List Char → Option (List OriginPart)
  | 0, _ => none
  | limit + 1, cs => do
      let (part, rest) ← OriginPart.read? cs
      if rest.isEmpty || (limit = 0 && (skip rest).isEmpty) then pure [part]
      else pure (part :: (← originParts? limit (skipComma (skip rest))))

/-- How far across and down an origin lies. One part alone leaves the other in the middle; two that
name edges may come in either order; a third, for the depth, does not count. -/
def origin? (text : String) : Option (Length × Length) := do
  let middle : Length := ⟨50, .percent⟩
  match ← originParts? 3 text.toList with
  | [part] =>
      match part.across? with
      | some across => pure (across, middle)
      | none => pure (middle, ← part.down?)
  | first :: second :: _ =>
      match first.across?, second.down? with
      | some across, some down => pure (across, down)
      | _, _ =>
          if first.isLength || second.isLength then none
          else pure (← second.across?, ← first.down?)
  | [] => none

/-- The transform that an element asks for; text that is malformed or would leave nothing to see
means none. -/
def Site.transform (site : Site) : Matrix :=
  match (site.attribute? "transform").bind transform? with
  | some m => if m.isUsable then m else .identity
  | none => .identity

def Place.transform (place : Place) : Matrix :=
  match (place.attribute? "transform-origin").bind origin? with
  | some (across, down) =>
      let x := across.toUser place .width
      let y := down.toUser place .height
      ((Matrix.offset x y).multiply place.site.transform).multiply (.offset (-x) (-y))
  | none => place.site.transform

end Wireframe.Svg
