import Wireframe.Component.Kind
import Wireframe.Scene.Node
/-!
The layout of each kind of component. A decision depends on the kind and a few words of its props
and on nothing else.
-/

namespace Wireframe

structure Layout where
  axis : Axis
  primarySizing : Sizing
  counterSizing : Sizing
  primaryAlign : Distribution
  counterAlign : Alignment
  spacing : Float32
  layoutAlign : LayoutAlign
  deriving DecidableEq

structure LayoutProps where
  alignment : Option String := none
  justify : Option String := none
  width : Option String := none
  fit : Option String := none
  spacing : Option Float32 := none

inductive CrossAxis where
  | vertical
  | horizontal
  deriving DecidableEq, Repr

/-- Whether a component stretches across its parent or wraps its content. -/
inductive WidthMode where
  | full
  | hug
  deriving DecidableEq, Repr

def WidthMode.word : WidthMode → String
  | .full => "Full"
  | .hug => "Hug"

def WidthMode.ofWord : Option String → WidthMode
  | none => .full
  | some word => if Text.upper word = "FULL" then .full else .hug

namespace Alignment

/-- An alignment by its word or by the side that it means on the axis; other words mean the middle
of a vertical axis and the start of a horizontal one. -/
def ofWord (axis : CrossAxis) (word : Option String) : Alignment :=
  let fallback : Alignment := match axis with
    | .vertical => .center
    | .horizontal => .min
  match word with
  | none => fallback
  | some word =>
      match Text.upper (Text.trim word), axis with
      | "MIN", _ => .min
      | "CENTER", _ => .center
      | "MAX", _ => .max
      | "TOP", .vertical => .min
      | "LEFT", .horizontal => .min
      | "BOTTOM", .vertical => .max
      | "RIGHT", .horizontal => .max
      | _, _ => fallback

end Alignment

def Distribution.ofWord : Option String → Distribution
  | none => .min
  | some word =>
      match Text.upper (Text.trim word) with
      | "END" | "MAX" => .max
      | "CENTER" => .center
      | "SPACE_BETWEEN" => .spaceBetween
      | _ => .min

namespace Layout

def unset : Layout := ⟨.none, .fixed, .fixed, .min, .min, 0, .inherit⟩

def defaultSpacing : Float32 := 8

def cardSpacing : Float32 := 12

def stack (props : LayoutProps) (spacing : Float32) : Layout :=
  { axis := .vertical
    primarySizing := .hug
    counterSizing := .fill
    primaryAlign := .min
    counterAlign := .ofWord .horizontal props.alignment
    spacing := props.spacing.getD spacing
    layoutAlign := .stretch }

def pill (width : WidthMode) : Layout :=
  { axis := .horizontal
    primarySizing := match width with
      | .full => .fill
      | .hug => .hug
    counterSizing := .hug
    primaryAlign := match width with
      | .full => .center
      | .hug => .min
    counterAlign := .center
    spacing := defaultSpacing
    layoutAlign := match width with
      | .full => .stretch
      | .hug => .inherit }

def select (kind : Kind) (props : LayoutProps) : Layout :=
  match kind with
  | .row =>
      { axis := .horizontal
        primarySizing := .fill
        counterSizing := .hug
        primaryAlign := .ofWord props.justify
        counterAlign := .ofWord .vertical props.alignment
        spacing := props.spacing.getD defaultSpacing
        layoutAlign := .stretch }
  | .column => stack props defaultSpacing
  | .card => stack props cardSpacing
  | .button | .socialButton => pill (.ofWord props.width)
  | .textField =>
      { unset with
        axis := .vertical
        primarySizing := .hug
        counterSizing := .fill
        spacing := defaultSpacing
        layoutAlign := .stretch }
  | .checkbox | .radioButton | .switch =>
      { axis := .horizontal
        primarySizing := .hug
        counterSizing := .hug
        primaryAlign := .min
        counterAlign := .center
        spacing := defaultSpacing
        layoutAlign := .inherit }
  | .image =>
      { unset with
        axis := .horizontal
        primaryAlign := .center
        counterAlign := .center
        layoutAlign := match props.fit.map Text.upper with
          | none | some "FILL" => .stretch
          | some _ => .inherit }
  | .placeholder =>
      { unset with
        axis := .horizontal
        primaryAlign := .center
        counterAlign := .center
        layoutAlign := .stretch }
  | .slider =>
      { unset with
        axis := .horizontal
        primarySizing := .fill
        counterAlign := .center
        layoutAlign := .stretch }
  | .header | .label => { unset with layoutAlign := .stretch }
  | .linkText | .colorSwatch | .icon => unset

end Layout

def Frame.applyLayout (layout : Layout) (frame : Frame) : Frame :=
  { frame with
    layout := layout.axis
    primarySizing := layout.primarySizing
    counterSizing := layout.counterSizing
    primaryAlign := layout.primaryAlign
    counterAlign := layout.counterAlign
    spacing := layout.spacing }

def Node.layout? : Node → Option Layout
  | .leaf .. => none
  | .container header frame _ =>
      some
        { axis := frame.layout
          primarySizing := frame.primarySizing
          counterSizing := frame.counterSizing
          primaryAlign := frame.primaryAlign
          counterAlign := frame.counterAlign
          spacing := frame.spacing
          layoutAlign := header.layoutAlign }

end Wireframe
