import Wireframe.Catalog.Basic
import Wireframe.Config
import Wireframe.Icon.Registry
import Wireframe.Render.Primitive

namespace Wireframe

structure Environment where
  config : Config
  catalog : Catalog
  fonts : FontProvider
  icons : IconProvider

structure IconRef where
  name : Option String
  markup : Option String
  deriving DecidableEq

namespace IconRef

def label (icon : IconRef) : String := icon.name.getD "Icon"

def markup? (icons : IconProvider) (icon : IconRef) : Option String :=
  icon.markup.or (icon.name.bind icons.lookup)

def draw (icons : IconProvider) (icon : IconRef) (markup : String) (size : Float32)
    (color : Color) : Option Vector :=
  (Vector.ofMarkup? markup (.square size)).map fun vector =>
    ({ vector with preserveColors := icon.name.any icons.isMultiTone }.recolor color).1

end IconRef

namespace Environment

def palette (env : Environment) : Palette := env.config.palette

def text (env : Environment) (spec : TextSpec) (color : Color) :
    Attempt Node := do
  match ← Build.text env.fonts env.config.fontFamilies spec with
  | .ok node => pure (node.mapText ({ · with fill := color }))
  | .error error => throw (.font error)

/-- The node of an icon, if there is markup for it; broken markup is an error. -/
def icon? (env : Environment) (icon : IconRef) (size : Float32) (color : Color) :
    Attempt (Option Node) :=
  match icon.markup? env.icons with
  | none => pure none
  | some markup =>
      match icon.draw env.icons markup size color with
      | none => throw (.invalidMarkup icon.label)
      | some vector => do
          let node ← Build.leaf icon.label (.vector vector)
          pure (some node)

/-- The icon in a slot of a component: broken markup is recorded and the slot stays empty. -/
def iconSlot (env : Environment) (icon : IconRef) (size : Float32) (color : Color) :
    Build (List Node) := do
  match ← (env.icon? icon size color).run with
  | .ok node => pure node.toList
  | .error _ => do
      Build.record (.vectorFailure icon.label)
      pure []

def number (env : Environment) (kind : Kind) (prop : String) (given : Option Float32)
    (fallback : Float32) : Float32 :=
  (given.or (env.catalog.number? kind prop)).getD fallback

def notice (env : Environment) (content : String) (size : Float32) (style : FontStyle) :
    Attempt Node :=
  env.text ⟨content, size, style, .left⟩ env.palette.error

end Environment

end Wireframe
