import Wireframe.Catalog.Builtin
import Wireframe.Proofs.Session.Turn

namespace Wireframe

namespace Session

theorem Effect.leaves {page after : Page} {state later : State} {request : Option Request}
    {result : Except SessionError (Option Nat)} {node : Node}
    (effect : Effect page state request result after later) (present : node ∈ page.frames)
    (left : node.id ∉ after.frames.map Node.id) :
    request = some .cancelGeneration ∨ (state = .awaiting node.id ∧
      ((∃ prompt device, request = some (.startGeneration prompt device)) ∨
        ∃ error, result = .error (.input error))) := by
  cases effect with
  | started prompt device name content =>
      have released : node.id ∉ (state.release page).frames.map Node.id := by
        intro kept
        apply left
        change node.id ∈ ((state.release page).frames ++ [_]).map Node.id
        rw [List.map_append]
        exact List.mem_append_left _ kept
      have waits := (state.release_drops page).number present released
      exact Or.inr ⟨State.awaiting_of_awaited waits.symm, Or.inl ⟨prompt, device, rfl⟩⟩
  | filled payload nodes waits found grown =>
      rw [Page.ids_modify _ (Node.id_append nodes)] at left
      exact absurd (List.mem_map_of_mem present) left
  | @aborted payload frame error waits =>
      have same := (Page.remove_drops frame page).number present left
      cases same
      exact Or.inr ⟨waits, Or.inr ⟨error, rfl⟩⟩
  | cancelled opened => exact Or.inl rfl
  | _ => exact absurd (List.mem_map_of_mem present) left

/-- Whatever others do to the page, a call makes a frame leave it only if it cancels, or if the
frame is a destination that still waits when the next one is started or when a render finds its
input unusable. Then it is empty, unless others may fill it while it waits. -/
theorem discards_empty (env : Environment) (viewport : Viewport)
    {allowed : State → Nat → Prop} {host : Host}
    (turns : Host.Turns env allowed (.new env viewport) host) {call : Call} {node : Node}
    (present : node ∈ host.session.page.frames)
    (left : node.id ∉ (host.session.call env call).2.page.frames.map Node.id) :
    call.request? = some .cancelGeneration ∨
      (host.session.state = .awaiting node.id ∧
        (call.Starts ∨ ∃ error, (host.session.call env call).1.Fails (.input error)) ∧
        (¬ allowed (.awaiting node.id) node.id → node.children = [])) := by
  have tended := (Host.Tended.new viewport).turns turns
  obtain ⟨result, effect, reports⟩ := host.session.call_effect env call
  rcases effect.leaves present left with cancels | ⟨waits, gives⟩
  · exact Or.inl cancels
  · have fits := tended.destination node.id (congrArg State.frame? waits) node present rfl
    refine Or.inr ⟨waits, ?_, fun denied => fits.children ⟨waits, denied⟩⟩
    rcases gives with starts | ⟨error, rfl⟩
    · exact Or.inl starts
    · exact Or.inr ⟨error, reports⟩

/-- An empty destination that gives way to the next. -/
theorem discards_empty_unfilled :
    let env : Environment := ⟨.standard, .builtin, Font.ofFaces (Font.family "Inter"), .library⟩
    let start := Host.new env .origin
    let host := { start with session := (start.session.call env (.start "a form" "mobile")).2 }
    let call : Call := .handle (.startGeneration "a cart" "mobile")
    Host.Turns env Host.elsewhere start host ∧
      ∃ node ∈ host.session.page.frames,
        node.id ∉ (host.session.call env call).2.page.frames.map Node.id ∧ node.children = [] := by
  intro env start host call
  have turns : Host.Turns env Host.elsewhere start host := .tail .refl (.call _)
  have present : ∃ node, node ∈ host.session.page.frames ∧ node.id = 1 :=
    ⟨_, List.mem_singleton_self _, rfl⟩
  obtain ⟨node, present, same⟩ := present
  have left : node.id ∉ (host.session.call env call).2.page.frames.map Node.id := by
    rw [same]
    decide
  refine ⟨turns, node, present, left, ?_⟩
  rcases discards_empty env .origin turns present left with cancels | ⟨_, _, empty⟩
  · cases cancels
  · exact empty fun denied => denied rfl

/-- A destination that others fill while it waits is lost with what is in it, both to the next start
and to a render whose input is unusable. -/
theorem discards_filled :
    let env : Environment := ⟨.standard, .builtin, Font.ofFaces (Font.family "Inter"), .library⟩
    let start := Host.new env .origin
    let opened := { start with session := (start.session.call env (.start "a form" "mobile")).2 }
    let note : Page.Edit := .appendChild 1 (.frame "Note" (.plain .zero))
    let host := { opened with session := opened.session.editPage note }
    Host.Turns env Host.anywhere start host ∧
      ∃ node ∈ host.session.page.frames, node.children ≠ [] ∧
        ∀ call ∈ [.start "a cart" "mobile", .render (.tree (.object []))],
          node.id ∉ (host.session.call env call).2.page.frames.map Node.id := by
  intro env start opened note host
  have called : Host.Turns env Host.anywhere start opened := .tail .refl (.call _)
  have turns : Host.Turns env Host.anywhere start host :=
    called.tail (.edit note fun _ _ _ => trivial)
  refine ⟨turns, _, List.mem_singleton_self _, List.cons_ne_nil _ _, ?_⟩
  intro call listed
  simp only [List.mem_cons, List.not_mem_nil, or_false] at listed
  rcases listed with rfl | rfl
  · decide
  · decide

end Session

end Wireframe
