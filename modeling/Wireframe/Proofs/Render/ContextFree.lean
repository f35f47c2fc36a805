import Wireframe.Proofs.Render.Uniformity
/-!
Rendering without context. What an entry becomes is settled by the environment, its depth and the
entry itself. Siblings and earlier inputs, broken or not, only move its numbers.
-/

namespace Wireframe

open Numbered (raise)

namespace Renderer

variable (env : Environment)

/-- The renderer after something that took `count` numbers and left `log`. -/
def advance (count : Nat) (log : Diagnostics) (renderer : Renderer) : Renderer :=
  ⟨renderer.lastId + count, renderer.log ++ log⟩

/-- A build that is the same from every number does everywhere what it does from zero. -/
theorem run_uniform {α : Type} [Numbered α] {build : Build α}
    (uniform : ∀ shift, Build.Shifted shift build build) (renderer : Renderer) :
    renderer.run build =
      (raise renderer.lastId (build 0).value, renderer.advance (build 0).lastId (build 0).log) := by
  have moved := uniform renderer.lastId 0
  rw [Nat.zero_add] at moved
  simp only [run, advance, moved, Built.raise]
  rw [Nat.add_comm]

theorem entries_cons (depth : Nat) (value : Json) (rest : List Json) (renderer : Renderer) :
    renderer.entries env depth (value :: rest) =
      let first := renderer.entry env depth value
      let others := first.2.entries env depth rest
      (first.1 :: others.1, others.2) := by
  simp [entries, entry, run, Tree.ofList, Render.trees, Bind.bind, Build.bind, Pure.pure,
    Build.pure]

theorem entries_append (depth : Nat) (before after : List Json) (renderer : Renderer) :
    renderer.entries env depth (before ++ after) =
      let front := renderer.entries env depth before
      let back := front.2.entries env depth after
      (front.1 ++ back.1, back.2) := by
  induction before generalizing renderer with
  | nil => simp [entries, run, Tree.ofList, Render.trees, Pure.pure, Build.pure]
  | cons value rest ih => simp only [List.cons_append, entries_cons, ih]

theorem tree_array (values : List Json) (renderer : Renderer) :
    renderer.tree env (.array values) =
      let slots := renderer.entries env 0 values
      (.ok (slots.1.filterMap id), slots.2) := by
  simp [tree, entries, run, Render.ofJson?, Json.array?, Render.entries, Render.kept, Bind.bind,
    Build.bind, Pure.pure, Build.pure]

theorem trees_append (before after : List Json) (renderer : Renderer) :
    renderer.trees env (before ++ after) =
      let front := renderer.trees env before
      let back := front.2.trees env after
      (front.1 ++ back.1, back.2) := by
  induction before generalizing renderer with
  | nil => rfl
  | cons value rest ih => simp only [List.cons_append, trees, ih]

/-- An entry becomes the same node wherever it stands, up to a shift of its numbers: after whatever
was rendered before, among any other entries, and in any of several inputs. What it adds to the
record and how many numbers it takes is everywhere the same as well. -/
theorem entry_context_free :
    ∃ (node : Nat → Json → Option Node) (log : Nat → Json → Diagnostics) (count : Nat → Json → Nat),
      (∀ (depth : Nat) (value : Json) (renderer : Renderer),
        renderer.entry env depth value =
          (raise renderer.lastId (node depth value),
            renderer.advance (count depth value) (log depth value))) ∧
      (∀ (depth : Nat) (before : List Json) (value : Json) (after : List Json)
          (renderer : Renderer),
        let front := renderer.entries env depth before
        let back := (front.2.advance (count depth value) (log depth value)).entries env depth after
        renderer.entries env depth (before ++ [value] ++ after) =
          (front.1 ++ [raise front.2.lastId (node depth value)] ++ back.1, back.2)) ∧
      (∀ (earlier before : List Json) (value : Json) (after later : List Json)
          (renderer : Renderer),
        let first := renderer.trees env earlier
        let front := first.2.entries env 0 before
        let back := (front.2.advance (count 0 value) (log 0 value)).entries env 0 after
        let last := back.2.trees env later
        renderer.trees env (earlier ++ [.array (before ++ [value] ++ after)] ++ later) =
          (first.1 ++
            [.ok ((front.1 ++ [raise front.2.lastId (node 0 value)] ++ back.1).filterMap id)] ++
            last.1, last.2)) := by
  -- What the entry becomes from zero, with nothing before it; everywhere else it is moved.
  let alone (depth : Nat) (value : Json) := Render.tree env depth (.ofJson value) 0
  have one (depth : Nat) (value : Json) (renderer : Renderer) :
      renderer.entry env depth value =
        (raise renderer.lastId (alone depth value).value,
          renderer.advance (alone depth value).lastId (alone depth value).log) :=
    run_uniform (fun _ => Render.tree_shifted env depth _) renderer
  have among (depth : Nat) (before : List Json) (value : Json) (after : List Json)
      (renderer : Renderer) :
      let front := renderer.entries env depth before
      let back := (front.2.advance (alone depth value).lastId (alone depth value).log).entries
        env depth after
      renderer.entries env depth (before ++ [value] ++ after) =
        (front.1 ++ [raise front.2.lastId (alone depth value).value] ++ back.1, back.2) := by
    simp only [List.append_assoc, List.singleton_append, entries_append, entries_cons, one]
  refine ⟨fun depth value => (alone depth value).value, fun depth value => (alone depth value).log,
    fun depth value => (alone depth value).lastId, one, among, ?_⟩
  intro earlier before value after later renderer
  rw [trees_append, trees_append]
  simp only [trees, tree_array, among]

end Renderer

end Wireframe
