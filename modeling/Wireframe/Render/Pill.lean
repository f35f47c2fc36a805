import Wireframe.Layout
import Wireframe.Render.Environment
import Wireframe.Text.Uppercase

namespace Wireframe.Render

structure Pill where
  kind : Kind
  label : String
  width : Option String
  background : Color
  foreground : Color
  icon : IconRef
  iconColor : Color

def Pill.layout (env : Environment) (pill : Pill) : Layout :=
  .select pill.kind { width := pill.width.or (env.catalog.string? pill.kind "width") }

def Pill.frame (env : Environment) (pill : Pill) : Frame :=
  { (Frame.plain .zero).applyLayout (pill.layout env) with
    padding := .symmetric 16 12
    cornerRadius := 8
    fills := [.solid pill.background] }

def Pill.build (env : Environment) (pill : Pill) : Attempt Node := do
  let icon ← env.iconSlot pill.icon 18 pill.iconColor
  let label ← env.text ⟨pill.label, 16, .medium, .left⟩ pill.foreground
  let node ← Build.frame (pill.label ++ " (" ++ pill.kind.tag ++ ")") (pill.frame env)
    (icon ++ [label])
  pure (node.withAlign (pill.layout env).layoutAlign)

def button (env : Environment) (props : ButtonProps) : Attempt Node :=
  Pill.build env
    { kind := .button
      label := props.label.getD "Button"
      width := props.width
      background := env.config.buttonFill props.color
      foreground := env.palette.onFill
      icon := ⟨props.icon, props.svgData⟩
      iconColor := env.palette.onFill }

def provider (props : SocialButtonProps) : String :=
  Text.lower ((props.provider.or props.icon).getD "google")

/-- The icon of a sign-in button: the one asked for, or the provider's if there is one. -/
def providerIcon (env : Environment) (props : SocialButtonProps) : Option String :=
  props.icon.or
    (if (env.icons.lookup (provider props)).isSome then some (provider props) else none)

def socialButton (env : Environment) (props : SocialButtonProps) : Attempt Node :=
  let style := env.config.socialStyle (provider props)
  Pill.build env
    { kind := .socialButton
      label := props.label.getD ("Continue with " ++ Text.capitalize (provider props))
      width := props.width
      background := style.background
      foreground := style.text
      icon := ⟨providerIcon env props, props.svgData⟩
      iconColor := style.icon }

end Wireframe.Render
