import Wireframe.Icon.Builtin
import Wireframe.Layout
import Wireframe.Render.Environment

namespace Wireframe.Render

def imageFill (env : Environment) : Paint :=
  .linearGradient [⟨0, env.palette.gradientStart⟩, ⟨1, env.palette.gradientEnd⟩]

def image (env : Environment) (props : ImageProps) : Attempt Node := do
  let width := env.number .image "width" props.width 100
  let height := env.number .image "height" props.height 100
  let layout := Layout.select .image { fit := props.fit }
  let frame : Frame :=
    { (Frame.plain ⟨width, height⟩).applyLayout layout with
      cornerRadius := env.number .image "cornerRadius" props.cornerRadius 8
      clipsContent := true
      fills := [imageFill env] }
  let glyph ← env.iconSlot ⟨some "Image Glyph", some Icon.imageGlyph⟩
    (Binary.least width height * 0.3) .white
  let name := (props.alt.or (env.catalog.string? .image "alt")).getD "Image"
  let node ← Build.frame name frame glyph
  pure (node.withAlign layout.layoutAlign)

/-- The border of a swatch: a selected one always has one, others only when they are light. -/
def swatchBorder (env : Environment) (selected light : Bool) : Option Stroke :=
  if selected then some ⟨env.palette.selection, 3⟩
  else if light then some ⟨env.palette.swatchBorder, 1⟩
  else none

def colorSwatch (env : Environment) (props : ColorSwatchProps) : Build Node :=
  let size := env.number .colorSwatch "size" props.size 40
  let (color, light) := env.config.swatchColor (props.color.getD "gray")
  Build.frame Kind.colorSwatch.tag
    { Frame.plain (.square size) with
      cornerRadius := if props.shape.map Text.lower = some "square" then 8 else size / 2
      fills := [.solid color]
      stroke := swatchBorder env (props.selected.getD false) light }
    []

def icon (env : Environment) (props : IconProps) : Attempt Node := do
  let name := props.icon.getD "icon"
  let size := env.number .icon "size" props.size 24
  let color := (props.color.bind fun text =>
    (Color.ofHex? text).or (Color.ofKeyword? text)).getD env.palette.icon
  match ← env.icon? ⟨some name, props.svgData⟩ size color with
  | some node => pure (node.withAlign (Layout.select .icon {}).layoutAlign)
  | none => throw (.missingIcon name)

def placeholder (env : Environment) (props : PlaceholderProps) : Attempt Node := do
  let size : Size :=
    ⟨env.number .placeholder "width" props.width 100,
      env.number .placeholder "height" props.height 100⟩
  let frame : Frame := { Frame.plain size with fills := [.solid env.palette.neutral] }
  let node ← match props.label with
    | none => (Build.frame Kind.placeholder.tag frame [] : Attempt Node)
    | some label => do
        let text ← env.text ⟨label, 14, .regular, .left⟩ env.palette.mutedText
        Build.frame Kind.placeholder.tag (frame.applyLayout (Layout.select .placeholder {})) [text]
  pure (node.withAlign .stretch)

end Wireframe.Render
