import Wireframe.Component.Tree
import Wireframe.Layout
import Wireframe.Render.Control
import Wireframe.Render.Picture
import Wireframe.Render.Pill
import Wireframe.Render.Typography
/-!
Rendering component trees, depth first and in order: rows, columns and cards are frames around what
lies below them. Each entry yields at most one node, and trouble with one entry stays there: an
entry that does not count is passed over, one of an unknown kind and one that cannot be built each
become a red text.
-/

namespace Wireframe.Render

def panel (kind : Kind) (layout : Layout) (decorate : Frame → Frame) (below : Build (List Node)) :
    Build Node := do
  let children ← below
  let node ← Build.frame kind.tag (decorate ((Frame.plain .zero).applyLayout layout)) children
  pure (node.withAlign layout.layoutAlign)

def row (props : RowProps) (below : Build (List Node)) : Build Node :=
  panel .row
    (.select .row
      { alignment := props.alignment, justify := props.justify, spacing := props.spacing })
    id below

def column (props : ColumnProps) (below : Build (List Node)) : Build Node :=
  panel .column
    (.select .column { alignment := props.alignment, spacing := props.spacing }) id below

def cardFrame (env : Environment) (props : CardProps) (frame : Frame) : Frame :=
  { frame with
    padding := .uniform (props.padding.getD 16)
    cornerRadius := 12
    fills := [.solid (env.config.cardBackground props.backgroundColor)]
    stroke := if props.hasBorder.getD true then some ⟨env.palette.cardBorder, 1⟩ else none
    shadow := if props.hasShadow.getD true then some ⟨env.palette.shadow, ⟨0, 2⟩, 8⟩ else none }

def card (env : Environment) (props : CardProps) (below : Build (List Node)) : Build Node :=
  panel .card (.select .card { alignment := props.alignment, spacing := props.spacing })
    (cardFrame env props) below

def component (env : Environment) (below : Build (List Node)) : Component → Attempt Node
  | .header props => header env props
  | .label props => label env props
  | .linkText props => link env props
  | .button props => button env props
  | .socialButton props => socialButton env props
  | .textField props => textField env props
  | .checkbox props => checkbox env props
  | .radioButton props => radioButton env props
  | .switch props => switch env props
  | .image props => image env props
  | .colorSwatch props => colorSwatch env props
  | .icon props => icon env props
  | .slider props => slider env props
  | .placeholder props => placeholder env props
  | .row props => row props below
  | .column props => column props below
  | .card props => card env props below
  | .unknown tag => do
      let node ← env.notice ("[UNKNOWN: " ++ tag ++ "]") 16 .bold
      pure (node.rename tag)

/-- A component with its record: an unknown kind is noted before its text is made, any other
component is counted when it has been built. -/
def recorded (env : Environment) (below : Build (List Node)) (read : Component) : Attempt Node :=
  match read with
  | .unknown tag => do
      Build.record (.unknownKind tag)
      component env below read
  | _ => do
      let node ← component env below read
      Build.record .oneBuilt
      pure node

def attempt (env : Environment) (depth : Nat) (entry : Entry) (below : Build (List Node)) :
    Attempt Node :=
  if env.config.maxDepth < depth then throw (.depthExceeded env.config.maxDepth)
  else
    match Component.ofEntry entry with
    | .error error => throw (.invalidProps error)
    | .ok read => recorded env below read

def errorText (env : Environment) (tag : String) : Build (Option Node) := do
  match ← (env.notice ("[ERROR: " ++ tag ++ "]") 12 .regular).run with
  | .ok node => pure (some (node.rename ("Error (" ++ tag ++ ")")))
  | .error _ => pure none

/-- A node with a name: its own or, if that is empty, its tag. -/
def named (tag : String) (node : Node) : Node :=
  if node.name = "" then node.rename tag else node

def entry (env : Environment) (depth : Nat) (entry : Entry) (below : Build (List Node)) :
    Build (Option Node) := do
  match ← (attempt env depth entry below).run with
  | .ok node => pure (some (named entry.tag node))
  | .error error => do
      Build.record (.failure entry.tag error)
      errorText env entry.tag

def kept {α : Type} (build : Build (List (Option α))) : Build (List α) := do
  let found ← build
  pure (found.filterMap id)

mutual

def tree (env : Environment) (depth : Nat) : Tree → Build (Option Node)
  | .invalid => do
      Build.record .oneSkipped
      pure none
  | .entry read children => entry env depth read (kept (trees env (depth + 1) children))

/-- Trees one after the other, with a gap for each that has no node. -/
def trees (env : Environment) (depth : Nat) : List Tree → Build (List (Option Node))
  | [] => pure []
  | first :: rest => do
      let node ← tree env depth first
      let others ← trees env depth rest
      pure (node :: others)

end

def entries (env : Environment) (values : List Json) : Build (List (Option Node)) :=
  trees env 0 (Tree.ofList values)

def ofJson? (env : Environment) (value : Json) : Option (Build (List Node)) :=
  value.array?.map fun values => kept (entries env values)

end Wireframe.Render
