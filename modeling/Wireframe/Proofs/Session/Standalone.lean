import Wireframe.Catalog.Builtin
import Wireframe.Proofs.Render.ContextFree
import Wireframe.Proofs.Session.Notice
import Wireframe.Proofs.Session.Turn
import Wireframe.Scene.Outline
/-!
Renders and their sessions. A session puts into its destination what a renderer makes of the tree by
itself, with its numbers counted on from that of the destination. Nothing of it depends on the page
or on what happened to the session before, and an outline shows no difference.
-/

namespace Wireframe

open Numbered (raise)

namespace Node

mutual

theorem outlineAt_raise (shift depth : Nat) (node : Node) :
    (node.raise shift).outlineAt depth = node.outlineAt depth := by
  cases node with
  | leaf header content => cases content <;> rfl
  | container header frame children =>
      rw [Node.raise, outlineAt, outlineAt, outlineAll_raise shift (depth + 1) children]
      rfl

theorem outlineAll_raise (shift depth : Nat) (nodes : List Node) :
    outlineAll depth (raiseAll shift nodes) = outlineAll depth nodes := by
  cases nodes with
  | nil => rfl
  | cons node rest =>
      rw [raiseAll, outlineAll, outlineAll, outlineAt_raise, outlineAll_raise]

end

end Node

namespace Renderer

variable (env : Environment) (values : List Json)

theorem tree_alone :
    let alone := Render.kept (Render.entries env values) 0
    (fresh 0).tree env (.array values) = (.ok alone.value, ⟨alone.lastId, alone.log⟩) := by
  intro alone
  change (Except.ok alone.value, (⟨alone.lastId, .empty ++ alone.log⟩ : Renderer)) = _
  rw [Diagnostics.empty_append]

theorem tree_fresh (lastId : Nat) :
    let alone := Render.kept (Render.entries env values) 0
    (fresh lastId).tree env (.array values) =
      (.ok (alone.value.map (Node.raise lastId)), ⟨lastId + alone.lastId, alone.log⟩) := by
  intro alone
  let build := Render.kept (Render.entries env values)
  have uniform : ∀ shift, Build.Shifted shift build build :=
    fun _ => Render.kept_shifted (Render.trees_shifted env 0 _)
  have moved := run_uniform uniform (fresh lastId)
  rw [advance, fresh, Diagnostics.empty_append] at moved
  change (Except.ok (run build (fresh lastId)).1, (run build (fresh lastId)).2) = _
  rw [fresh, moved]
  rfl

end Renderer

namespace Session

/-- Whatever happened to a session and its page, a design that is rendered into a new destination is
what a renderer makes of it by itself, with its numbers counted on from that of the destination, and
so is the report. Nothing else of the destination changes, and no other frame does. The outlines of
what is put in are therefore the same in all sessions. -/
theorem render_standalone (env : Environment) (values : List Json) :
    ∃ nodes alone, (Renderer.fresh 0).tree env (.array values) = (.ok nodes, alone) ∧
      ∀ viewport host, Host.Turns env Host.anywhere (.new env viewport) host →
      ∀ prompt device payload, payload.toTree = .ok (.array values) →
        let started := host.session.start env prompt device
        let rendered := started.2.render env payload
        let handled := started.2.handle env (.renderDesign (some payload))
        let children := nodes.map (Node.raise started.1)
        rendered.1 = .ok ⟨started.1, nodes.length, alone.log⟩ ∧
        rendered.2.state = .populated started.1 ∧
        (∃ front header content, header.id = started.1 ∧
          started.2.page.frames = front ++ [.container header content []] ∧
          rendered.2.page.frames = front ++ [.container header content children]) ∧
        handled.1.outcome = .generationComplete nodes.length ∧
        handled.2.page = rendered.2.page ∧
        children.map Node.outline = nodes.map Node.outline := by
  let alone := Render.kept (Render.entries env values) 0
  refine ⟨alone.value, _, Renderer.tree_alone env values, ?_⟩
  intro viewport host turns prompt device payload parsed started rendered handled children
  let page := host.session.state.release host.session.page
  let frame := page.added (draft env prompt device)
  let content := destinationFrame env.config.frame (env.config.device device)
  have bounded : page.Bounded :=
    host.session.state.bounded_release ((Host.Tended.new viewport).turns turns).bounded
  have waits : started.2.state = .awaiting started.1 := rfl
  have found : started.2.page.frame? started.1 = some (.container frame.header content []) :=
    bounded.found_add (draft env prompt device)
  have made : (Renderer.fresh started.2.page.lastId).tree env (.array values) =
      (.ok children, ⟨started.1 + alone.lastId, alone.log⟩) :=
    Renderer.tree_fresh env values started.1
  let after : Page := { started.2.page with lastId := started.1 + alone.lastId }
  have placed : (after.modify started.1 (·.append children)).frames =
      page.frames ++ [.container frame.header content children] := by
    have number : frame.id = started.1 := page.id_added _
    rw [← number]
    exact Page.modify_last (page.frames_add _) (bounded.apart _) (·.append children)
  have count : children.length = alone.value.length := List.length_map _
  have filled := render_fills waits found parsed made
  have answered := handle_fills waits found parsed made
  rw [count] at filled answered
  have filledPage : rendered.2.page = after.modify started.1 (·.append children) :=
    congrArg (·.2.page) filled
  refine ⟨congrArg Prod.fst filled, congrArg (·.2.state) filled,
    ⟨page.frames, frame.header, content, page.id_added _, page.frames_add _, ?_⟩,
    congrArg (·.1.outcome) answered, ?_, ?_⟩
  · rw [filledPage, placed]
  · rw [filledPage]
    exact congrArg (·.2.page) answered
  · rw [List.map_map]
    apply List.map_congr_left
    intro node _
    exact Node.outlineAt_raise started.1 0 node

/-- A slider, rendered after another request has failed. -/
theorem render_standalone_again :
    let env : Environment := ⟨.standard, .builtin, Font.ofFaces (Font.family "Inter"), .library⟩
    let slider : Json := .object [("component", .string "Slider"), ("props", .object [])]
    let start := Host.new env .origin
    let opened := { start with session := (start.session.call env (.start "a form" "mobile")).2 }
    let failed : Payload := .tree .null
    let host := { opened with session := (opened.session.call env (.render failed)).2 }
    let payload : Payload := .tree (.array [slider])
    let rendered := (host.session.start env "a cart" "tablet").2.render env payload
    Host.Turns env Host.anywhere start host ∧ payload.toTree = .ok (.array [slider]) ∧
      ∃ nodes alone, (Renderer.fresh 0).tree env (.array [slider]) = (.ok nodes, alone) ∧
        rendered.1 = .ok ⟨2, nodes.length, alone.log⟩ ∧ alone.log.built = 1 := by
  intro env slider start opened failed host payload rendered
  have called : Host.Turns env Host.anywhere start opened := .tail .refl (.call _)
  have turns : Host.Turns env Host.anywhere start host := called.tail (.call (.render failed))
  have parsed : payload.toTree = .ok (.array [slider]) := rfl
  obtain ⟨nodes, alone, made, same⟩ := render_standalone env [slider]
  have report := (same .origin host turns "a cart" "tablet" payload parsed).1
  have built : ((Renderer.fresh 0).tree env (.array [slider])).2.log.built = 1 := by
    decide +kernel
  rw [made] at built
  exact ⟨turns, parsed, nodes, alone, made, report, built⟩

end Session

end Wireframe
