import Wireframe.Component.Props
/-!
Components: entries of a known kind whose props have the right types, and entries of unknown kinds.
Reading looks at the props of the entry alone, never at the entries below it.
-/

namespace Wireframe

structure TextProps where
  text : Option String
  textAlign : Option String
  fontWeight : Option String
  deriving DecidableEq

structure LinkProps where
  text : Option String
  align : Option String
  textAlign : Option String
  fontWeight : Option String
  deriving DecidableEq

structure ButtonProps where
  label : Option String
  color : Option String
  icon : Option String
  svgData : Option String
  width : Option String
  deriving DecidableEq

structure SocialButtonProps where
  provider : Option String
  label : Option String
  icon : Option String
  svgData : Option String
  width : Option String
  deriving DecidableEq

structure TextFieldProps where
  label : Option String
  placeholder : Option String
  icon : Option String
  svgData : Option String
  endIcon : Option String
  endSvgData : Option String
  deriving DecidableEq

structure ToggleProps where
  label : Option String
  checked : Option Bool
  groupName : Option String
  deriving DecidableEq

structure ImageProps where
  width : Option Float32
  height : Option Float32
  alt : Option String
  cornerRadius : Option Float32
  fit : Option String
  deriving DecidableEq

structure ColorSwatchProps where
  color : Option String
  size : Option Float32
  shape : Option String
  selected : Option Bool
  deriving DecidableEq

structure IconProps where
  icon : Option String
  svgData : Option String
  size : Option Float32
  color : Option String
  deriving DecidableEq

structure SliderProps where
  value : Option Float32
  deriving DecidableEq

structure PlaceholderProps where
  width : Option Float32
  height : Option Float32
  label : Option String
  deriving DecidableEq

structure RowProps where
  spacing : Option Float32
  alignment : Option String
  justify : Option String
  deriving DecidableEq

structure ColumnProps where
  spacing : Option Float32
  alignment : Option String
  deriving DecidableEq

structure CardProps where
  padding : Option Float32
  spacing : Option Float32
  backgroundColor : Option String
  hasBorder : Option Bool
  hasShadow : Option Bool
  alignment : Option String
  deriving DecidableEq

inductive Component where
  | header (props : TextProps)
  | label (props : TextProps)
  | linkText (props : LinkProps)
  | button (props : ButtonProps)
  | socialButton (props : SocialButtonProps)
  | textField (props : TextFieldProps)
  | checkbox (props : ToggleProps)
  | radioButton (props : ToggleProps)
  | switch (props : ToggleProps)
  | image (props : ImageProps)
  | colorSwatch (props : ColorSwatchProps)
  | icon (props : IconProps)
  | slider (props : SliderProps)
  | placeholder (props : PlaceholderProps)
  | row (props : RowProps)
  | column (props : ColumnProps)
  | card (props : CardProps)
  | unknown (tag : String)
  deriving DecidableEq

structure PropsError where
  tag : String
  cause : Json.Cause
  deriving DecidableEq

def PropsError.message (error : PropsError) : String :=
  "invalid props for " ++ error.tag ++ ": " ++ error.cause.text

namespace Component

open Props

private def toggleProps (props : List (String × Json)) : ToggleProps :=
  ⟨string? props "label", boolean? props "checked", string? props "groupName"⟩

private def textProps (props : List (String × Json)) : TextProps :=
  ⟨string? props "text", string? props "textAlign", string? props "fontWeight"⟩

def ofProps (kind : Kind) (props : List (String × Json)) : Component :=
  let string := string? props
  let number := number? props
  let boolean := boolean? props
  match kind with
  | .header => .header (textProps props)
  | .label => .label (textProps props)
  | .linkText =>
      .linkText ⟨string "text", string "align", string "textAlign", string "fontWeight"⟩
  | .button =>
      .button ⟨string "label", string "color", string "icon", string "svgData", string "width"⟩
  | .socialButton =>
      .socialButton
        ⟨string "provider", string "label", string "icon", string "svgData", string "width"⟩
  | .textField =>
      .textField ⟨string "label", string "placeholder", string "icon", string "svgData",
        string "endIcon", string "endSvgData"⟩
  | .checkbox => .checkbox (toggleProps props)
  | .radioButton => .radioButton (toggleProps props)
  | .switch => .switch (toggleProps props)
  | .image =>
      .image ⟨number "width", number "height", string "alt", number "cornerRadius", string "fit"⟩
  | .colorSwatch =>
      .colorSwatch ⟨string "color", number "size", string "shape", boolean "selected"⟩
  | .icon => .icon ⟨string "icon", string "svgData", number "size", string "color"⟩
  | .slider => .slider ⟨number "value"⟩
  | .placeholder => .placeholder ⟨number "width", number "height", string "label"⟩
  | .row => .row ⟨number "spacing", string "alignment", string "justify"⟩
  | .column => .column ⟨number "spacing", string "alignment"⟩
  | .card =>
      .card ⟨number "padding", number "spacing", string "backgroundColor", boolean "hasBorder",
        boolean "hasShadow", string "alignment"⟩

/-- Reads an entry: any entry of an unknown kind, and one of a known kind if its props have the
right types. -/
def ofEntry (entry : Entry) : Except PropsError Component :=
  match Kind.ofTag? entry.tag with
  | none => .ok (.unknown entry.tag)
  | some kind =>
      match fault? kind.props entry.props with
      | some cause => .error ⟨entry.tag, cause⟩
      | none => .ok (ofProps kind entry.props)

def kind? : Component → Option Kind
  | .header _ => some .header
  | .label _ => some .label
  | .linkText _ => some .linkText
  | .button _ => some .button
  | .socialButton _ => some .socialButton
  | .textField _ => some .textField
  | .checkbox _ => some .checkbox
  | .radioButton _ => some .radioButton
  | .switch _ => some .switch
  | .image _ => some .image
  | .colorSwatch _ => some .colorSwatch
  | .icon _ => some .icon
  | .slider _ => some .slider
  | .placeholder _ => some .placeholder
  | .row _ => some .row
  | .column _ => some .column
  | .card _ => some .card
  | .unknown _ => none

@[simp] theorem kind?_ofProps (kind : Kind) (props : List (String × Json)) :
    (ofProps kind props).kind? = some kind := by
  cases kind <;> rfl

theorem kind?_ofEntry {entry : Entry} {read : Component} (reads : ofEntry entry = .ok read) :
    read.kind? = Kind.ofTag? entry.tag := by
  unfold ofEntry at reads
  cases named : Kind.ofTag? entry.tag with
  | none =>
      rw [named] at reads
      cases reads
      rfl
  | some kind =>
      rw [named] at reads
      dsimp only at reads
      split at reads
      · cases reads
      · cases reads
        exact kind?_ofProps kind entry.props

theorem ofEntry_unknown {entry : Entry} {tag : String}
    (reads : ofEntry entry = .ok (.unknown tag)) : tag = entry.tag := by
  have unknown := kind?_ofEntry reads
  rw [ofEntry, ← unknown] at reads
  cases reads
  rfl

end Component

end Wireframe
