import Wireframe.Layout
import Wireframe.Render.Environment

namespace Wireframe

def TextAlign.ofWord (fallback : TextAlign) : Option String → TextAlign
  | none => fallback
  | some word =>
      match Text.upper (Text.trim word) with
      | "LEFT" => .left
      | "CENTER" => .center
      | "RIGHT" => .right
      | _ => fallback

def FontStyle.ofWord (fallback : FontStyle) : Option String → FontStyle
  | none => fallback
  | some word =>
      match Text.lower (Text.trim word) with
      | "regular" | "normal" => .regular
      | "medium" => .medium
      | "bold" => .bold
      | _ => fallback

namespace Render

def kindText (env : Environment) (kind : Kind) (spec : TextSpec) (color : Color) :
    Attempt Node := do
  let node ← env.text spec color
  pure ((node.rename kind.tag).withAlign (Layout.select kind {}).layoutAlign)

def header (env : Environment) (props : TextProps) : Attempt Node :=
  kindText env .header
    { content := props.text.getD "Header"
      size := 24
      style := .ofWord .bold props.fontWeight
      align := .ofWord .center props.textAlign }
    .black

def label (env : Environment) (props : TextProps) : Attempt Node :=
  kindText env .label
    { content := props.text.getD "Label"
      size := 14
      style := .ofWord .regular props.fontWeight
      align := .ofWord .left props.textAlign }
    .black

def link (env : Environment) (props : LinkProps) : Attempt Node := do
  let fallback := TextAlign.ofWord .left (env.catalog.string? .linkText "align")
  let node ← kindText env .linkText
    { content := props.text.getD "Link"
      size := 14
      style := .ofWord .regular props.fontWeight
      align := .ofWord fallback (props.align.or props.textAlign) }
    env.palette.link
  pure (node.mapText ({ · with decoration := .underline }))

end Render

end Wireframe
