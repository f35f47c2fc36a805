import Wireframe.Svg.PaintValue
import Wireframe.Svg.Server

namespace Wireframe.Svg

def PlainPaint.coat? (site : Site) : PlainPaint → Option Coat
  | .none => Option.none
  | .currentColor =>
      let current := currentInk site
      some (.ofInk current current.opacity)
  | .ink own => some (.ofInk own own.opacity)

/-- A paint on an element. A picture that is measured by the box of the shape needs one with a width
and a height. -/
def PaintValue.coat? (painter : Painter) (scope : Scope) (site : Site) (hasBox : Bool) :
    PaintValue → Option Coat
  | .plain paint => paint.coat? site
  | .contextFill => scope.contextFill.map fun coat => { coat with opacity := 1 }
  | .contextStroke => scope.contextStroke.map fun coat => { coat with opacity := 1 }
  | .link id fallback =>
      match server painter scope id with
      | .picture byBox contentByBox =>
          if byBox && !hasBox then fallback.coat? site
          else some ⟨.picture byBox contentByBox, 1, .own⟩
      | .ink ink opacity => some (.ofInk ink opacity)
      | .missing => fallback.coat? site
      | .unfit => none

def coat? (painter : Painter) (scope : Scope) (site : Site) (hasBox : Bool) (name : String)
    (missing malformed : PaintValue) : Option Coat :=
  let (owner, value) := match site.owner? name with
    | some owner =>
        (owner, ((owner.attribute? name).bind PaintValue.ofText?).getD malformed)
    | none => (site, missing)
  let opacity := ((site.nearest? (name ++ "-opacity")).bind opacity?).getD 1
  (value.coat? painter scope owner hasBox).map fun coat =>
    { coat with opacity := coat.opacity * opacity }

/-- The fill of a path, black unless something else is said, and always in a clip path. -/
def fill? (painter : Painter) (scope : Scope) (site : Site) (hasBox : Bool) : Option Coat :=
  let black := PaintValue.plain (.ink .black)
  if scope.isClip then some (.ofInk .black 1)
  else coat? painter scope site hasBox "fill" black black

def strokeWidth (scope : Scope) (site : Site) : Float32 :=
  let owner := (site.owner? "stroke-width").getD site
  ((scope.place owner).length? .across "stroke-width").getD 1

def stroke? (painter : Painter) (scope : Scope) (site : Site) (hasBox : Bool) :
    Option (Coat × Float32) :=
  let nothing := PaintValue.plain .none
  let width := strokeWidth scope site
  if scope.isClip || !isPositive width then none
  else (coat? painter scope site hasBox "stroke" nothing nothing).map (·, width)

inductive PathPart where
  | fill
  | stroke
  | markers
  deriving DecidableEq, Repr

namespace PathPart

def all : List PathPart := [.fill, .stroke, .markers]

def ofName? (name : String) : Option PathPart :=
  match name with
  | "fill" => some .fill
  | "stroke" => some .stroke
  | "markers" => some .markers
  | _ => none

def named? : Nat → List Char → Option (List PathPart)
  | 0, cs => if cs.isEmpty then some [] else none
  | limit + 1, cs =>
      if cs.isEmpty then some []
      else do
        let (name, rest) := word (skip cs)
        let part ← ofName? (String.ofList name)
        pure (part :: (← named? limit (skip rest)))

/-- The order that a text asks for; parts that it does not name come last. A text that is malformed
or names a part twice asks for the usual order. -/
def order (text : Option String) : List PathPart :=
  match text.bind fun text => named? 3 text.toList with
  | some parts =>
      if parts.Nodup then parts ++ all.filter fun part => !parts.contains part else all
  | none => all

end PathPart

end Wireframe.Svg
