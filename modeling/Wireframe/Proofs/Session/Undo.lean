import Wireframe.Catalog.Builtin
import Wireframe.Proofs.Session.Turn

namespace Wireframe

/-- Only a list of entries is rendered. -/
theorem Renderer.array_of_tree {env : Environment} {value : Json} {nodes : List Node}
    {renderer after : Renderer} (made : renderer.tree env value = (.ok nodes, after)) :
    ∃ values, value = .array values := by
  cases value with
  | array values => exact ⟨values, rfl⟩
  | _ => cases congrArg Prod.fst made

namespace Session

theorem Effect.cancels {page after : Page} {state later : State}
    {result : Except SessionError (Option Nat)} {frame : Nat}
    (effect : Effect page state (some .cancelGeneration) result after later)
    (opened : state.frame? = some frame) : after = page.remove frame ∧ later = .idle := by
  cases effect with
  | cancelled same =>
      cases opened.symm.trans same
      exact ⟨rfl, rfl⟩
  | closed asks idle =>
      rw [idle] at opened
      cases opened

/-- A call that gives a destination up: it cancels, or renders what is no list of entries. -/
def Call.GivesUp (call : Call) : Prop :=
  call.request? = some .cancelGeneration ∨
    ∃ payload, call.request? = some (.renderDesign (some payload)) ∧
      ∀ values, payload.toTree ≠ .ok (.array values)

section

variable (env : Environment) {session : Session} {call : Call}

theorem call_opens (settled : ∀ frame, session.state ≠ .awaiting frame) {prompt device : String}
    (asks : call.request? = some (.startGeneration prompt device)) :
    (session.call env call).2.page = (session.page.add (draft env prompt device)).2 ∧
      (session.call env call).2.state = .awaiting (session.page.lastId + 1) := by
  have kept : session.state.release session.page = session.page := by
    cases holds : session.state with
    | awaiting frame => exact absurd holds (settled frame)
    | _ => rfl
  have started (waiting : List String) :
      let started := ({ session with notifications := waiting }.start env prompt device).2
      started.page = (session.page.add (draft env prompt device)).2 ∧
        started.state = .awaiting (session.page.lastId + 1) := by
    rw [start_adds, kept]
    exact ⟨rfl, rfl⟩
  cases call with
  | start _ _ =>
      cases asks
      exact started session.notifications
  | handle _ =>
      cases asks
      exact started []
  | _ => cases asks

theorem render_gives_up {payload : Payload}
    (unlisted : ∀ values, payload.toTree ≠ .ok (.array values)) {frame : Nat} {node : Node}
    (waits : session.state = .awaiting frame) (found : session.page.frame? frame = some node) :
    ∃ error, session.render env payload = (.error (.input error), session.abort frame error) := by
  rcases session.render_cases env payload with
    ⟨refusal, refuses, _⟩ | ⟨other, error, still, _, _, aborted⟩ |
      ⟨other, _, value, nodes, renderer, _, _, parsed, made, _⟩
  · rw [waits] at refuses
    cases refuses with
    | lost gone => cases gone.symm.trans found
  · cases waits.symm.trans still
    exact ⟨error, aborted⟩
  · obtain ⟨values, rfl⟩ := Renderer.array_of_tree made
    exact absurd parsed (unlisted values)

/-- A destination that waits leaves the page when it is given up. -/
theorem call_gives_up (givesUp : call.GivesUp) {frame : Nat} {node : Node}
    (waits : session.state = .awaiting frame) (found : session.page.frame? frame = some node) :
    (session.call env call).2.page = session.page.remove frame ∧
      (session.call env call).2.state = .idle := by
  rcases givesUp with asks | ⟨payload, asks, unlisted⟩
  · obtain ⟨result, effect, _⟩ := session.call_effect env call
    rw [asks] at effect
    exact effect.cancels (congrArg State.frame? waits)
  · cases call with
    | render _ =>
        cases asks
        obtain ⟨error, aborted⟩ := render_gives_up env unlisted waits found
        dsimp only [Session.call]
        rw [aborted]
        exact ⟨rfl, rfl⟩
    | handle _ =>
        cases asks
        have silent : session.takeNotifications.2.state = .awaiting frame := waits
        obtain ⟨error, aborted⟩ := render_gives_up env unlisted silent found
        dsimp only [Session.call, handle, answer]
        rw [aborted]
        exact ⟨rfl, rfl⟩
    | _ => cases asks

/-- What is started and given up leaves nothing of it on the page but that its number is gone, so
that the next start for the same device is placed where it was. -/
theorem undone_starts_leave_no_trace (viewport : Viewport) {host : Host}
    (turns : Host.Turns env Host.anywhere (.new env viewport) host)
    (settled : ∀ frame, host.session.state ≠ .awaiting frame) {first second third : Call}
    {prompt again device : String}
    (opens : first.request? = some (.startGeneration prompt device)) (givesUp : second.GivesUp)
    (reopens : third.request? = some (.startGeneration again device)) :
    let session := host.session
    let opened := (session.call env first).2
    let undone := (opened.call env second).2
    let reopened := (undone.call env third).2
    undone.page = { session.page with lastId := session.page.lastId + 1 } ∧ undone.state = .idle ∧
      ∃ discarded frame, opened.page.frames = session.page.frames ++ [discarded] ∧
        reopened.page.frames = session.page.frames ++ [frame] ∧
        frame.header.position = discarded.header.position := by
  intro session opened undone reopened
  have bounded : session.page.Bounded := ((Host.Tended.new viewport).turns turns).bounded
  obtain ⟨page, waits⟩ := call_opens env settled opens
  have found := bounded.found_add (draft env prompt device)
  rw [← page] at found
  obtain ⟨removed, closed⟩ := call_gives_up env givesUp waits found
  rw [page, bounded.remove_add] at removed
  have idle : ∀ frame, undone.state ≠ .awaiting frame := by
    intro frame waits
    cases closed.symm.trans waits
  obtain ⟨next, _⟩ := call_opens env idle reopens
  refine ⟨removed, closed, session.page.added (draft env prompt device),
    undone.page.added (draft env again device), ?_, ?_, ?_⟩
  · rw [page, Page.frames_add]
  · rw [next, Page.frames_add, removed]
  · rw [removed]
    rfl

end

/-- After a design has been rendered and moved, another one that is no list of entries. -/
theorem undone_starts_leave_no_trace_moved :
    let env : Environment := ⟨.standard, .builtin, Font.ofFaces (Font.family "Inter"), .library⟩
    let start := Host.new env .origin
    let opened := { start with session := (start.session.call env (.start "a form" "mobile")).2 }
    let render : Call := .render (.tree (.array []))
    let filled := { opened with session := (opened.session.call env render).2 }
    let host := { filled with session := filled.session.editPage (.move 1 (some ⟨40, 20⟩)) }
    let first : Call := .start "a cart" "tablet"
    let second : Call := .handle (.renderDesign (some (.tree .null)))
    let third : Call := .handle (.startGeneration "a list" "tablet")
    let undone := ((host.session.call env first).2.call env second).2
    Host.Turns env Host.anywhere start host ∧ host.session.state = .populated 1 ∧
      second.GivesUp ∧
      undone.page = { host.session.page with lastId := host.session.page.lastId + 1 } ∧
      undone.state = .idle ∧
      ∃ frame, (undone.call env third).2.page.frames = host.session.page.frames ++ [frame] := by
  intro env start opened render filled host first second third undone
  have called : Host.Turns env Host.anywhere start opened := .tail .refl (.call _)
  have rendered : Host.Turns env Host.anywhere start filled := called.tail (.call render)
  have turns : Host.Turns env Host.anywhere start host :=
    rendered.tail (.edit (.move 1 (some ⟨40, 20⟩)) fun _ _ _ => trivial)
  have populated : host.session.state = .populated 1 := by decide +kernel
  have settled : ∀ frame, host.session.state ≠ .awaiting frame := by
    rw [populated]
    exact nofun
  have givesUp : second.GivesUp := Or.inr ⟨.tree .null, rfl, nofun⟩
  have opens : first.request? = some (.startGeneration "a cart" "tablet") := rfl
  have reopens : third.request? = some (.startGeneration "a list" "tablet") := rfl
  obtain ⟨page, state, _, frame, _, placed, _⟩ :=
    undone_starts_leave_no_trace env .origin turns settled opens givesUp reopens
  exact ⟨turns, populated, givesUp, page, state, frame, placed⟩

end Session

end Wireframe
