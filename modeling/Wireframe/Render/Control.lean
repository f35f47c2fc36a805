import Wireframe.Icon.Builtin
import Wireframe.Layout
import Wireframe.Render.Environment

namespace Wireframe.Render

def inputFrame (env : Environment) : Frame :=
  { Frame.plain ⟨100, 48⟩ with
    layout := .horizontal
    spacing := 8
    padding := .symmetric 12 0
    counterAlign := .center
    cornerRadius := 8
    fills := [.solid env.palette.inputFill] }

def fieldLabel (env : Environment) : Option String → Attempt (List Node)
  | none => pure []
  | some label => do
      let node ← env.text ⟨label, 14, .regular, .left⟩ .black
      pure [node.withAlign .stretch]

/-- The text inside a text field, or a space that takes its room. -/
def fieldText (env : Environment) : Option String → Attempt Node
  | some placeholder => do
      let node ← env.text ⟨placeholder, 16, .regular, .left⟩ env.palette.placeholderText
      let node := node.mapText ({ · with verticalAlign := .center })
      pure (((node.rename "Placeholder").withAlign .stretch).withGrow 1)
  | none => do
      let node ← Build.frame "Spacer" (.plain ⟨1, 16⟩) []
      pure (node.withGrow 1)

def textField (env : Environment) (props : TextFieldProps) : Attempt Node := do
  let layout := Layout.select .textField {}
  let label ← fieldLabel env props.label
  let start ← env.iconSlot ⟨props.icon, props.svgData⟩ 20 env.palette.fieldIcon
  let content ← fieldText env props.placeholder
  let stop ← env.iconSlot ⟨props.endIcon, props.endSvgData⟩ 20 env.palette.fieldIcon
  let input ← Build.frame "Input Area" (inputFrame env) (start ++ [content] ++ stop)
  let node ← Build.frame (props.label.getD "TextField" ++ " (Field)")
    ((Frame.plain .zero).applyLayout layout) (label ++ [input.withAlign .stretch])
  pure (node.withAlign layout.layoutAlign)

def controlBorder (env : Environment) : Stroke := ⟨env.palette.controlBorder, 2⟩

def labelled (env : Environment) (kind : Kind) (control : Node) (label : String) :
    Attempt Node := do
  let layout := Layout.select kind {}
  let text ← env.text ⟨label, 14, .regular, .left⟩ .black
  let node ← Build.frame (label ++ " (" ++ kind.tag ++ ")")
    ((Frame.plain .zero).applyLayout layout) [control, text]
  pure (node.withAlign layout.layoutAlign)

def isChecked (props : ToggleProps) : Bool := props.checked.getD false

def checkbox (env : Environment) (props : ToggleProps) : Attempt Node := do
  let checked := isChecked props
  let frame : Frame :=
    { Frame.plain (.square 20) with
      layout := .horizontal
      primaryAlign := .center
      counterAlign := .center
      cornerRadius := 4
      stroke := some (controlBorder env)
      fills := [.solid (if checked then env.palette.selection else .white)] }
  let mark ← if checked then
      env.iconSlot ⟨some "Checkmark", some Icon.checkmark⟩ 16 env.palette.onFill
    else pure []
  let control ← Build.frame "Box" frame mark
  labelled env .checkbox control (props.label.getD "Checkbox")

def ringSide : Float32 := 20

def dotSide : Float32 := 8

def radioDot (env : Environment) : Build Node := do
  let dot ← Build.shape .ellipse (.plain (.square dotSide) 0 (some env.palette.selection) none)
  let inset := (ringSide - dotSide) / 2
  pure ((dot.rename "Dot").withPosition (some ⟨inset, inset⟩))

def radioButton (env : Environment) (props : ToggleProps) : Attempt Node := do
  let frame : Frame :=
    { Frame.plain (.square ringSide) with
      cornerRadius := ringSide / 2
      stroke := some (controlBorder env)
      fills := [.solid .white] }
  let dot ← if isChecked props then (do let dot ← radioDot env; pure [dot]) else pure []
  let control ← Build.frame "Circle" frame dot
  labelled env .radioButton control (props.label.getD "Radio")

def trackSize : Size := ⟨44, 24⟩

def thumbSide : Float32 := 18

def thumbMargin : Float32 := 3

def thumbOffset (checked : Bool) : Float32 :=
  if checked then trackSize.width - thumbSide - thumbMargin else thumbMargin

def switch (env : Environment) (props : ToggleProps) : Attempt Node := do
  let checked := isChecked props
  let frame : Frame :=
    { Frame.plain trackSize with
      cornerRadius := trackSize.height / 2
      fills := [.solid (if checked then env.palette.selection else env.palette.toggleOff)] }
  let thumb ← Build.shape .ellipse (.plain (.square thumbSide) 0 (some .white) none)
  let thumb := (thumb.rename "Thumb").withPosition
    (some ⟨thumbOffset checked, (trackSize.height - thumbSide) / 2⟩)
  let control ← Build.frame "Track" frame [thumb]
  labelled env .switch control (props.label.getD "Switch")

def percent (x : Float32) : Float32 :=
  let x := if x < 0 then 0 else x
  if 100 < x then 100 else x

def slider (env : Environment) (props : SliderProps) : Build Node := do
  let layout := Layout.select .slider {}
  let value := percent (env.number .slider "value" props.value 30)
  let track ← Build.shape .rectangle (.plain ⟨100, 8⟩ 4 (some env.palette.toggleOff) none)
  let track := (track.rename ("Track (" ++ Binary.singleText value ++ "%)")).withGrow 1
  let node ← Build.frame Kind.slider.tag ((Frame.plain ⟨100, 20⟩).applyLayout layout) [track]
  pure ((node.withAlign layout.layoutAlign).withGrow 1)

end Wireframe.Render
