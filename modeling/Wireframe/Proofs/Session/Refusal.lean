import Wireframe.Catalog.Builtin
import Wireframe.Proofs.Session.Turn
/-!
Refusals. Whatever others do to the page, a call that is refused changes nothing of it, and the
session is closed at most. A destination that is gone makes every render a refusal, while a session
without it can still be cancelled and finished.
-/

namespace Wireframe

/-- The message of a refusal tells what state it leaves. -/
theorem Refusal.leaves_of_message {first second : Refusal} (same : first.message = second.message)
    (state : Session.State) : first.leaves state = second.leaves state := by
  cases second with
  | destinationRemoved id =>
      obtain ⟨other, rfl⟩ := removed_of_message same
      rfl
  | noActiveDestination | alreadyRendered =>
      cases first with
      | destinationRemoved id =>
          obtain ⟨other, removed⟩ := removed_of_message same.symm
          cases removed
      | _ => rfl

namespace Session

/-- When the destination is a container, a refusal comes before anything is rendered, so it leaves
the page as it was. -/
theorem Effect.refused_keeps {page after : Page} {state later : State} {request : Option Request}
    {refusal : Refusal}
    (effect : Effect page state request (.error (.refused refusal)) after later)
    (container : ∀ frame node, state = .awaiting frame → page.frame? frame = some node →
      node.frame?.isSome) :
    after = page ∧ later = refusal.leaves state := by
  cases effect with
  | @lost payload frame lastId waits gone grown early =>
      cases found : page.frame? frame with
      | none =>
          rw [early found]
          exact ⟨rfl, rfl⟩
      | some node =>
          have sort := container frame node waits found
          rw [found] at gone
          rw [show node.frame? = none from gone] at sort
          cases sort
  | full payload holds => exact ⟨rfl, rfl⟩
  | closed asks idle => exact ⟨rfl, rfl⟩

theorem Effect.withoutData_keeps {page after : Page} {state later : State}
    {result : Except SessionError (Option Nat)}
    (effect : Effect page state (some (.renderDesign none)) result after later)
    (accepted : ∀ refusal, result ≠ .error (.refused refusal)) :
    after = page ∧ later = state ∧
      ∃ frame node, state = .awaiting frame ∧ page.frame? frame = some node := by
  cases effect with
  | withoutData waits found => exact ⟨rfl, rfl, _, _, waits, found⟩
  | lost payload waits gone grown => exact absurd rfl (accepted _)
  | full payload holds => exact absurd rfl (accepted _)
  | closed asks idle => exact absurd rfl (accepted _)

section

variable (env : Environment)

/-- Whatever others do to the page, a refused call changes neither the page nor the last number, and
it changes the state only if the destination is gone, which closes the session. A render request
without data that is not refused changes none of them either, and the destination still waits for a
list of entries, which can be rendered. -/
theorem refusals_change_nothing (viewport : Viewport) {host : Host}
    (turns : Host.Turns env Host.anywhere (.new env viewport) host) :
    let session := host.session
    (∀ call refusal, (session.call env call).1.Fails (.refused refusal) →
      (session.call env call).2.page = session.page ∧
      (session.call env call).2.state = refusal.leaves session.state) ∧
    (∀ call, call.request? = some (.renderDesign none) →
      (∀ refusal, ¬ (session.call env call).1.Fails (.refused refusal)) →
      let after := (session.call env call).2
      after.page = session.page ∧ after.state = session.state ∧
      (∃ frame, session.state = .awaiting frame) ∧
      ∀ payload values, payload.toTree = .ok (.array values) →
        ∃ report, (after.render env payload).1 = .ok report) := by
  intro session
  have tended := (Host.Tended.new viewport).turns turns
  have container (frame : Nat) (node : Node) (waits : session.state = .awaiting frame)
      (found : session.page.frame? frame = some node) : node.frame?.isSome :=
    ((tended.destination frame (congrArg State.frame? waits)).found found).container
  constructor
  · intro call refusal fails
    obtain ⟨result, effect, reports⟩ := call_effect env session call
    obtain ⟨other, rfl, same⟩ := reports.refused fails
    obtain ⟨page, state⟩ := effect.refused_keeps container
    rw [Refusal.leaves_of_message same] at state
    exact ⟨page, state⟩
  · intro call asks accepted after
    obtain ⟨result, effect, reports⟩ := call_effect env session call
    rw [asks] at effect
    have unrefused : ∀ refusal, result ≠ .error (.refused refusal) := by
      rintro refusal rfl
      exact accepted refusal reports
    obtain ⟨page, state, frame, node, waits, found⟩ := effect.withoutData_keeps unrefused
    refine ⟨page, state, ⟨frame, waits⟩, ?_⟩
    intro payload values parsed
    have still : after.page.frame? frame = some node := by
      rw [page]
      exact found
    exact render_succeeds env (state.trans waits) still (container frame node waits found) parsed

/-- A render that is refused because the destination has been removed from outside. -/
theorem refusals_change_nothing_removed :
    let env : Environment := ⟨.standard, .builtin, Font.ofFaces (Font.family "Inter"), .library⟩
    let start := Host.new env .origin
    let opened := { start with session := (start.session.call env (.start "a form" "mobile")).2 }
    let host := { opened with session := opened.session.editPage (.remove 1) }
    let render : Call := .handle (.renderDesign (some (.tree (.array []))))
    Host.Turns env Host.anywhere start host ∧
      (host.session.call env render).1.Fails (.refused (.destinationRemoved 1)) ∧
      (host.session.call env render).2.page = host.session.page ∧
      (host.session.call env render).2.state = .idle := by
  intro env start opened host render
  have called : Host.Turns env Host.anywhere start opened := .tail .refl (.call _)
  have turns : Host.Turns env Host.anywhere start host :=
    called.tail (.edit (.remove 1) fun _ _ _ => trivial)
  have fails : (host.session.call env render).1.Fails (.refused (.destinationRemoved 1)) := rfl
  obtain ⟨page, state⟩ := (refusals_change_nothing env .origin turns).1 render _ fails
  exact ⟨turns, fails, page, state⟩

theorem render_refused {session after : Session} {refusal : Refusal}
    (refused : session.destination = (.error refusal, after)) (payload : Payload) :
    session.render env payload = (.error (.refused refusal), after) := by
  unfold render
  rw [refused]

theorem rejectMissing_refused {session after : Session} {refusal : Refusal}
    (refused : session.destination = (.error refusal, after)) :
    session.rejectMissing = (.refused refusal, after) := by
  unfold rejectMissing
  rw [refused]

/-- Whether the one thing that a call tells the user is this. An answer carries it, and otherwise it
waits behind what was there. -/
def Hears (session : Session) (call : Call) (notice : String) : Prop :=
  match session.call env call with
  | (.answered response, _) => response.notifications = [notice]
  | (_, after) => after.notifications = session.notifications ++ [notice]

section

variable {session : Session} {frame : Nat} (opened : session.state.frame? = some frame)
  (gone : session.page.frame? frame = none)

include opened gone

theorem destination_gone :
    ∃ refusal, session.destination = (.error refusal, session.refusing refusal) := by
  rcases session.destination_cases with ⟨refusal, _, refused⟩ | ⟨other, node, waits, found, _⟩
  · exact ⟨refusal, refused⟩
  · rw [waits] at opened
    cases opened
    cases gone.symm.trans found

theorem render_gone {call : Call} {payload : Option Payload}
    (asks : call.request? = some (.renderDesign payload)) :
    ∃ refusal, (session.call env call).1.Fails (.refused refusal) ∧
      session.Hears env call (refusalNotice refusal) := by
  cases call with
  | render payload =>
      obtain ⟨refusal, refused⟩ := destination_gone opened gone
      have rendered := render_refused env refused payload
      refine ⟨refusal, congrArg Prod.fst rendered, ?_⟩
      simp only [Hears, call, rendered]
      rfl
  | handle request =>
      cases asks
      have opened : session.takeNotifications.2.state.frame? = some frame := opened
      obtain ⟨refusal, refused⟩ := destination_gone opened gone
      have answered : session.takeNotifications.2.answer env (.renderDesign payload) =
          (.error refusal.message, session.takeNotifications.2.refusing refusal) := by
        cases payload with
        | none =>
            simp only [answer, rejectMissing_refused refused]
            rfl
        | some payload =>
            simp only [answer, render_refused env refused payload]
            rfl
      refine ⟨refusal, ?_, ?_⟩
      · simp only [call, handle, answered]
        rfl
      · simp only [Hears, call, handle, answered]
        rfl
  | _ => cases asks

omit gone

theorem cancel_opened :
    session.cancel = (.ok (),
      { session with page := session.page.remove frame, state := .idle }.notify cancelled) := by
  unfold cancel
  rw [opened]

theorem finish_opened :
    session.finish = (.ok (), { session with state := .idle }.notify finished) := by
  unfold finish
  rw [opened]

/-- Closing looks at the state alone. -/
theorem call_cancel_opened {call : Call} (asks : call.request? = some .cancelGeneration) :
    (session.call env call).1.message? = none ∧ session.Hears env call cancelled := by
  have opened' : session.takeNotifications.2.state.frame? = some frame := opened
  cases call with
  | cancel =>
      simp only [Hears, call, cancel_opened opened]
      exact ⟨rfl, rfl⟩
  | handle request =>
      cases asks
      simp only [Hears, call, handle, answer, cancel_opened opened']
      exact ⟨rfl, rfl⟩
  | _ => cases asks

theorem call_finish_opened {call : Call} (asks : call.request? = some .finishGeneration) :
    (session.call env call).1.message? = none ∧ session.Hears env call finished := by
  have opened' : session.takeNotifications.2.state.frame? = some frame := opened
  cases call with
  | finish =>
      simp only [Hears, call, finish_opened opened]
      exact ⟨rfl, rfl⟩
  | handle request =>
      cases asks
      simp only [Hears, call, handle, answer, finish_opened opened']
      exact ⟨rfl, rfl⟩
  | _ => cases asks

include gone

/-- When its destination is gone, an open session refuses every render and tells the user so.
Cancelling and finishing do not look at the page: they report success. -/
theorem gone_refuses_renders :
    (∀ call payload, call.request? = some (.renderDesign payload) →
      ∃ refusal, (session.call env call).1.Fails (.refused refusal) ∧
        session.Hears env call (refusalNotice refusal)) ∧
    (∀ call, call.request? = some .cancelGeneration →
      (session.call env call).1.message? = none ∧ session.Hears env call cancelled) ∧
    (∀ call, call.request? = some .finishGeneration →
      (session.call env call).1.message? = none ∧ session.Hears env call finished) :=
  ⟨fun _ _ asks => render_gone env opened gone asks,
    fun _ asks => call_cancel_opened env opened asks,
    fun _ asks => call_finish_opened env opened asks⟩

end

/-- A destination that was removed from outside, and a render request without data. -/
theorem gone_refuses_renders_removed :
    let env : Environment := ⟨.standard, .builtin, Font.ofFaces (Font.family "Inter"), .library⟩
    let session := ((new env .origin).call env (.start "a form" "mobile")).2.editPage (.remove 1)
    let call : Call := .handle (.renderDesign none)
    session.state.frame? = some 1 ∧ session.page.frame? 1 = none ∧
      ∃ refusal, (session.call env call).1.Fails (.refused refusal) ∧
        session.Hears env call (refusalNotice refusal) := by
  intro env session call
  have opened : session.state.frame? = some 1 := rfl
  have gone : session.page.frame? 1 = none := rfl
  exact ⟨opened, gone, (gone_refuses_renders env opened gone).1 call none rfl⟩

/-- Not every call that needs a destination fails when it is gone: a session is cancelled and
finished without it. -/
theorem gone_closes :
    let env : Environment := ⟨.standard, .builtin, Font.ofFaces (Font.family "Inter"), .library⟩
    let start := Host.new env .origin
    let opened := { start with session := (start.session.call env (.start "a form" "mobile")).2 }
    let host := { opened with session := opened.session.editPage (.remove 1) }
    Host.Turns env Host.anywhere start host ∧ host.session.state.frame? = some 1 ∧
      host.session.page.frame? 1 = none ∧
      ∀ call ∈ [.cancel, .finish, .handle .cancelGeneration, .handle .finishGeneration],
        ∀ error, ¬ (host.session.call env call).1.Fails error := by
  intro env start opened host
  have called : Host.Turns env Host.anywhere start opened := .tail .refl (.call _)
  have turns : Host.Turns env Host.anywhere start host :=
    called.tail (.edit (.remove 1) fun _ _ _ => trivial)
  refine ⟨turns, rfl, rfl, ?_⟩
  intro call listed error fails
  have message := fails.message
  simp only [List.mem_cons, List.not_mem_nil, or_false] at listed
  rcases listed with rfl | rfl | rfl | rfl <;> cases message

end

end Session

end Wireframe
