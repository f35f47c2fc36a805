import Wireframe.Render.Tree
/-!
Renderers. A renderer renders one input after the other: its numbers go on where the last input
ended, and its record grows by what each input adds.
-/

namespace Wireframe

inductive InputError where
  | notAList (found : String)
  | unreadable (fault : Json.Fault)
  | missing
  deriving DecidableEq

def InputError.message : InputError → String
  | .notAList found => "render input must be a JSON array, found " ++ found
  | .unreadable fault => "render input is not valid JSON: " ++ fault.message
  | .missing => "render request carried no design data"

structure Renderer where
  lastId : Nat
  log : Diagnostics

namespace Renderer

def fresh (lastId : Nat) : Renderer := ⟨lastId, .empty⟩

def run {α : Type} (build : Build α) (renderer : Renderer) : α × Renderer :=
  let built := build renderer.lastId
  (built.value, ⟨built.lastId, renderer.log ++ built.log⟩)

def entry (env : Environment) (depth : Nat) (value : Json) : Renderer → Option Node × Renderer :=
  run (Render.tree env depth (.ofJson value))

def entries (env : Environment) (depth : Nat) (values : List Json) :
    Renderer → List (Option Node) × Renderer :=
  run (Render.trees env depth (Tree.ofList values))

/-- Renders a list of entries that is given as a JSON value; any other value changes nothing. -/
def tree (env : Environment) (value : Json) (renderer : Renderer) :
    Except InputError (List Node) × Renderer :=
  match Render.ofJson? env value with
  | none => (.error (.notAList value.typeName), renderer)
  | some build =>
      let (nodes, renderer) := renderer.run build
      (.ok nodes, renderer)

def trees (env : Environment) : List Json → Renderer →
    List (Except InputError (List Node)) × Renderer
  | [], renderer => ([], renderer)
  | value :: rest, renderer =>
      let (nodes, renderer) := renderer.tree env value
      let (others, renderer) := renderer.trees env rest
      (nodes :: others, renderer)

end Renderer

end Wireframe
