import Wireframe.Proofs.Page.Frames
import Wireframe.Proofs.Render.Forest
import Wireframe.Proofs.Session.Call
import Wireframe.Proofs.Session.Ending

namespace Wireframe

namespace Session

def State.awaited? : State → Option Nat
  | .awaiting frame => some frame
  | .idle | .populated _ => none

theorem State.frame?_of_awaited {state : State} {frame : Nat}
    (waits : state.awaited? = some frame) : state.frame? = some frame := by
  cases state with
  | awaiting waiting => exact waits
  | _ => cases waits

theorem State.awaiting_of_awaited {state : State} {frame : Nat}
    (waits : state.awaited? = some frame) : state = .awaiting frame := by
  cases state with
  | awaiting waiting =>
      cases waits
      rfl
  | _ => cases waits

theorem State.release_drops (state : State) (page : Page) :
    Page.DropsAtMost state.awaited? page.frames (state.release page).frames := by
  cases state with
  | awaiting frame => exact Page.remove_drops frame page
  | _ => exact Or.inl rfl

theorem State.lastId_release (state : State) (page : Page) :
    (state.release page).lastId = page.lastId := by
  cases state <;> rfl

theorem State.bounded_release (state : State) {page : Page} (bounded : page.Bounded) :
    (state.release page).Bounded := by
  cases state with
  | awaiting frame => exact bounded.remove frame
  | _ => exact bounded

/-- What the calls that ask for something do to the page and the state, and how they end: with the
frame that was filled, if any, or with an error. -/
inductive Effect (page : Page) (state : State) :
    Option Request → Except SessionError (Option Nat) → Page → State → Prop
  | started (prompt device name : String) (content : Frame) :
      Effect page state (some (.startGeneration prompt device)) (.ok none)
        ((state.release page).add (.frame name content)).2 (.awaiting (page.lastId + 1))
  | filled (payload : Payload) {frame : Nat} {header : Node.Header} {content : Frame}
      {children : List Node} (nodes : List Node) {lastId : Nat} (waits : state = .awaiting frame)
      (found : page.frame? frame = some (.container header content children))
      (grown : page.lastId ≤ lastId)
      (fresh : Taken True page.lastId lastId (Node.idsOf nodes)) :
      Effect page state (some (.renderDesign (some payload))) (.ok (some frame))
        ({ page with lastId }.modify frame (·.append nodes)) (.populated frame)
  | aborted (payload : Payload) {frame : Nat} (error : InputError)
      (waits : state = .awaiting frame) :
      Effect page state (some (.renderDesign (some payload))) (.error (.input error))
        (page.remove frame) .idle
  | lost (payload : Option Payload) {frame lastId : Nat} (waits : state = .awaiting frame)
      (gone : (page.frame? frame).bind Node.frame? = none) (grown : page.lastId ≤ lastId)
      (early : page.frame? frame = none → lastId = page.lastId) :
      Effect page state (some (.renderDesign payload))
        (.error (.refused (.destinationRemoved frame))) { page with lastId } .idle
  | withoutData {frame : Nat} {node : Node} (waits : state = .awaiting frame)
      (found : page.frame? frame = some node) :
      Effect page state (some (.renderDesign none)) (.error (.input .missing)) page state
  | full (payload : Option Payload) {frame : Nat} (holds : state = .populated frame) :
      Effect page state (some (.renderDesign payload)) (.error (.refused .alreadyRendered))
        page state
  | closed {request : Request} (asks : ∀ prompt device, request ≠ .startGeneration prompt device)
      (idle : state = .idle) :
      Effect page state (some request) (.error (.refused .noActiveDestination)) page state
  | cancelled {frame : Nat} (opened : state.frame? = some frame) :
      Effect page state (some .cancelGeneration) (.ok none) (page.remove frame) .idle
  | finished {frame : Nat} (opened : state.frame? = some frame) :
      Effect page state (some .finishGeneration) (.ok none) page .idle
  | taken : Effect page state none (.ok none) page state

namespace Effect

variable {page after : Page} {state later : State} {request : Option Request}
variable {result : Except SessionError (Option Nat)}

theorem state_of_filled {frame : Nat}
    (effect : Effect page state request (.ok (some frame)) after later) :
    later = .populated frame := by
  cases effect
  rfl

theorem start {prompt device : String}
    (effect : Effect page state (some (.startGeneration prompt device)) result after later) :
    later = .awaiting (page.lastId + 1) ∧ after.lastId = page.lastId + 1 ∧
      ∃ header content, header.id = page.lastId + 1 ∧
        after.frames = (state.release page).frames ++ [.container header content []] := by
  cases effect with
  | started _ _ name content =>
      have next := congrArg (· + 1) (state.lastId_release page)
      exact ⟨rfl, next, _, content, next, rfl⟩
  | closed asks idle => exact absurd rfl (asks prompt device)

theorem lastId_le (effect : Effect page state request result after later) :
    page.lastId ≤ after.lastId := by
  cases effect with
  | started prompt device name content =>
      have kept := state.lastId_release page
      exact Nat.le_succ_of_le (Nat.le_of_eq kept.symm)
  | filled payload nodes waits found grown => exact grown
  | lost payload waits gone grown => exact grown
  | _ => exact Nat.le_refl _

theorem bounded (effect : Effect page state request result after later)
    (bounded : page.Bounded) : after.Bounded := by
  cases effect with
  | started prompt device name content =>
      exact (state.bounded_release bounded).add _
  | filled payload nodes waits found grown =>
      exact (bounded.raise grown).modify _ (Node.id_append nodes)
  | aborted payload error waits => exact bounded.remove _
  | cancelled opened => exact bounded.remove _
  | lost payload waits gone grown => exact bounded.raise grown
  | _ => exact bounded

theorem opened (effect : Effect page state request result after later) {frame : Nat}
    (opened : later.frame? = some frame) :
    state.frame? = some frame ∨ (frame = page.lastId + 1 ∧ after.lastId = page.lastId + 1) := by
  cases effect with
  | started prompt device name content =>
      have next := congrArg (· + 1) (state.lastId_release page)
      exact Or.inr ⟨(Option.some.inj opened).symm, next⟩
  | filled payload nodes waits found grown =>
      rw [waits]
      exact Or.inl opened
  | withoutData waits => exact Or.inl opened
  | full payload holds => exact Or.inl opened
  | closed asks idle => exact Or.inl opened
  | taken => exact Or.inl opened
  | _ => cases opened

end Effect

def closing (result : Except Refusal Unit) : Except SessionError (Option Nat) :=
  (result.mapError .refused).map fun _ => none

theorem Reply.reports_rendered (result : Except SessionError Report) (state : State) :
    (Reply.rendered result).Reports state (result.map fun report => some report.frame) := by
  cases result with
  | ok report => exact ⟨rfl, rfl⟩
  | error error => rfl

theorem Reply.reports_closed (result : Except Refusal Unit) (state : State) :
    (Reply.closed result).Reports state (closing result) := by
  cases result with
  | ok value => exact ⟨rfl, rfl⟩
  | error refusal => exact ⟨refusal, rfl, rfl⟩

section

variable (env : Environment) (session : Session)

theorem Refuses.effect {page : Page} {state : State} {refusal : Refusal}
    (refuses : Refuses page state refusal) (payload : Option Payload) :
    Effect page state (some (.renderDesign payload)) (.error (.refused refusal)) page
      (refusal.leaves state) := by
  cases refuses with
  | closed => exact .closed nofun rfl
  | full frame => exact .full payload rfl
  | lost gone =>
      exact .lost payload rfl (congrArg (·.bind Node.frame?) gone) (Nat.le_refl _) fun _ => rfl

theorem render_effect (payload : Payload) :
    let result := session.render env payload
    Effect session.page session.state (some (.renderDesign (some payload)))
      (result.1.map fun report => some report.frame) result.2.page result.2.state := by
  dsimp only
  rcases session.render_cases env payload with
    ⟨refusal, refuses, refused⟩ | ⟨frame, error, waits, _, _, aborted⟩ |
      ⟨frame, node, value, nodes, renderer, waits, found, _, made, attached⟩
  · rw [refused]
    exact refuses.effect (some payload)
  · rw [aborted]
    exact .aborted payload error waits
  · have fresh := (Renderer.tree_taken env (.fresh session.page.lastId) made).loosen
    rw [attached]
    rcases session.attach_cases frame nodes renderer with
      ⟨bare, lost⟩ | ⟨header, content, children, container, filled⟩
    · rw [lost]
      refine .lost (some payload) waits bare fresh.le ?_
      intro gone
      cases gone.symm.trans found
    · rw [filled]
      exact .filled payload nodes waits container fresh.le fresh

theorem rejectMissing_effect :
    let result := session.rejectMissing
    Effect session.page session.state (some (.renderDesign none)) (.error result.1) result.2.page
      result.2.state := by
  unfold rejectMissing
  rcases session.destination_cases with ⟨refusal, refuses, refused⟩ | ⟨_, _, waits, found, ready⟩
  · rw [refused]
    exact refuses.effect none
  · rw [ready]
    exact .withoutData waits found

theorem cancel_effect :
    let result := session.cancel
    Effect session.page session.state (some .cancelGeneration) (closing result.1) result.2.page
      result.2.state := by
  obtain ⟨page, state, notifications⟩ := session
  cases state with
  | idle => exact .closed (nofun) rfl
  | awaiting frame => exact .cancelled rfl
  | populated frame => exact .cancelled rfl

theorem finish_effect :
    let result := session.finish
    Effect session.page session.state (some .finishGeneration) (closing result.1) result.2.page
      result.2.state := by
  obtain ⟨page, state, notifications⟩ := session
  cases state with
  | idle => exact .closed (nofun) rfl
  | awaiting frame => exact .finished rfl
  | populated frame => exact .finished rfl

theorem start_effect (prompt device : String) :
    let result := session.start env prompt device
    Effect session.page session.state (some (.startGeneration prompt device)) (.ok none)
      result.2.page result.2.state := by
  obtain ⟨page, state, notifications⟩ := session
  cases state with
  | idle => exact .started prompt device _ _
  | awaiting frame => exact .started prompt device _ _
  | populated frame => exact .started prompt device _ _

theorem answer_effect (request : Request) :
    let answered := session.answer env request
    ∃ result, Effect session.page session.state (some request) result answered.2.page
        answered.2.state ∧
      ∀ notifications,
        (Reply.answered ⟨answered.1, notifications⟩).Reports answered.2.state result := by
  cases request with
  | startGeneration prompt device =>
      exact ⟨.ok none, session.start_effect env prompt device, fun _ => ⟨rfl, rfl⟩⟩
  | renderDesign payload =>
      cases payload with
      | none =>
          exact ⟨.error session.rejectMissing.1, session.rejectMissing_effect, fun _ => rfl⟩
      | some payload =>
          have effect := session.render_effect env payload
          dsimp only [answer] at effect ⊢
          cases made : session.render env payload with
          | mk result after =>
              rw [made] at effect
              cases result with
              | error error => exact ⟨.error error, effect, fun _ => rfl⟩
              | ok report =>
                  have state := congrArg State.frame? effect.state_of_filled
                  exact ⟨.ok (some report.frame), effect, fun _ => ⟨rfl, state⟩⟩
  | cancelGeneration =>
      have effect := session.cancel_effect
      dsimp only [answer] at effect ⊢
      cases made : session.cancel with
      | mk result after =>
          rw [made] at effect
          cases result with
          | ok value => exact ⟨.ok none, effect, fun _ => ⟨rfl, rfl⟩⟩
          | error refusal => exact ⟨.error (.refused refusal), effect, fun _ => rfl⟩
  | finishGeneration =>
      have effect := session.finish_effect
      dsimp only [answer] at effect ⊢
      cases made : session.finish with
      | mk result after =>
          rw [made] at effect
          cases result with
          | ok value => exact ⟨.ok none, effect, fun _ => ⟨rfl, rfl⟩⟩
          | error refusal => exact ⟨.error (.refused refusal), effect, fun _ => rfl⟩

/-- What any call comes to. -/
theorem call_effect (call : Call) :
    let answered := session.call env call
    ∃ result, Effect session.page session.state call.request? result answered.2.page
        answered.2.state ∧
      answered.1.Reports answered.2.state result := by
  cases call with
  | start prompt device => exact ⟨.ok none, session.start_effect env prompt device, rfl, rfl⟩
  | render payload => exact ⟨_, session.render_effect env payload, Reply.reports_rendered _ _⟩
  | cancel => exact ⟨_, session.cancel_effect, Reply.reports_closed _ _⟩
  | finish => exact ⟨_, session.finish_effect, Reply.reports_closed _ _⟩
  | handle request =>
      obtain ⟨result, effect, reports⟩ := session.takeNotifications.2.answer_effect env request
      exact ⟨result, effect, reports _⟩
  | takeNotifications => exact ⟨.ok none, .taken, rfl, rfl⟩

end

end Session

end Wireframe
