import Wireframe.Proofs.Session.Ending

namespace Wireframe

def SessionError.notice : SessionError → String
  | .refused refusal => Session.refusalNotice refusal
  | .input .missing => Session.invalidData
  | .input error => "Render error: " ++ error.message ++ "."

namespace Session

/-- What a user is told of a design that was rendered: one notice of all components that could not
be built, one of all icons whose markup is broken, and that it is done. -/
def renderNotices (log : Diagnostics) : List String :=
  (if log.failures = [] then [] else [classNotice log .nodeBuild]) ++
    (if log.vectorFailures = [] then [] else [classNotice log .vector]) ++ [rendered]

theorem map_classNotice (log : Diagnostics) :
    log.classes.map (classNotice log) ++ [rendered] = renderNotices log := by
  unfold Diagnostics.classes renderNotices
  rw [List.map_append]
  congr 2
  · cases log.failures <;> rfl
  · cases log.vectorFailures <;> rfl

theorem handle_fills {env : Environment} {session : Session} {frame : Nat} {header : Node.Header}
    {content : Frame} {children nodes : List Node} {payload : Payload} {values : List Json}
    {renderer : Renderer} (waits : session.state = .awaiting frame)
    (found : session.page.frame? frame = some (.container header content children))
    (parsed : payload.toTree = .ok (.array values))
    (made : (Renderer.fresh session.page.lastId).tree env (.array values) = (.ok nodes, renderer)) :
    let page : Page := { session.page with lastId := renderer.lastId }
    session.handle env (.renderDesign (some payload)) =
      (⟨.generationComplete nodes.length, renderNotices renderer.log⟩,
        ⟨page.modify frame (·.append nodes), .populated frame, []⟩) := by
  intro page
  have silent : session.takeNotifications.2.state = .awaiting frame := waits
  unfold handle answer
  dsimp only
  rw [render_fills silent found parsed made, map_classNotice]
  rfl

/-- What the notices of an answer are, by the outcome of its request. -/
def Tells (env : Environment) (page : Page) (request : Request) : Outcome → List String → Prop
  | .generationStarted _ _, notices => notices = []
  | .generationComplete count, notices =>
      ∃ payload value nodes renderer, request = .renderDesign (some payload) ∧
        payload.toTree = .ok value ∧
        (Renderer.fresh page.lastId).tree env value = (.ok nodes, renderer) ∧
        nodes.length = count ∧ notices = renderNotices renderer.log
  | .cancelled, notices => notices = [cancelled]
  | .finished, notices => notices = [finished]
  | .error message, notices =>
      ∃ error : SessionError, error.message = message ∧ notices = [error.notice]

section

variable (env : Environment) (session : Session)

def Raises (request : Request) : Prop :=
  ∃ notices, (session.answer env request).2.notifications = session.notifications ++ notices ∧
    Tells env session.page request (session.answer env request).1 notices

theorem raises_design (payload : Payload) : session.Raises env (.renderDesign (some payload)) := by
  unfold Raises answer
  dsimp only
  rcases session.render_cases env payload with
    ⟨refusal, _, refused⟩ | ⟨frame, error, _, present, _, aborted⟩ |
      ⟨frame, _, value, nodes, renderer, _, _, parsed, made, attached⟩
  · rw [refused]
    exact ⟨_, rfl, .refused refusal, rfl, rfl⟩
  · rw [aborted]
    refine ⟨_, rfl, .input error, rfl, ?_⟩
    cases error with
    | missing => exact absurd rfl present
    | notAList found => rfl
    | unreadable fault => rfl
  · rw [attached]
    rcases session.attach_cases frame nodes renderer with ⟨_, lost⟩ | ⟨_, _, _, _, filled⟩
    · rw [lost]
      exact ⟨_, rfl, .refused (.destinationRemoved frame), rfl, rfl⟩
    · rw [filled, map_classNotice]
      exact ⟨_, rfl, payload, value, nodes, renderer, rfl, parsed, made, rfl, rfl⟩

theorem raises_missing : session.Raises env (.renderDesign none) := by
  unfold Raises answer rejectMissing
  dsimp only
  rcases session.destination_cases with ⟨refusal, _, refused⟩ | ⟨_, _, _, _, ready⟩
  · rw [refused]
    exact ⟨_, rfl, .refused refusal, rfl, rfl⟩
  · rw [ready]
    exact ⟨_, rfl, .input .missing, rfl, rfl⟩

theorem raises_cancel : session.Raises env .cancelGeneration := by
  obtain ⟨page, state, notifications⟩ := session
  cases state with
  | idle => exact ⟨_, rfl, .refused .noActiveDestination, rfl, rfl⟩
  | awaiting frame => exact ⟨_, rfl, rfl⟩
  | populated frame => exact ⟨_, rfl, rfl⟩

theorem raises_finish : session.Raises env .finishGeneration := by
  obtain ⟨page, state, notifications⟩ := session
  cases state with
  | idle => exact ⟨_, rfl, .refused .noActiveDestination, rfl, rfl⟩
  | awaiting frame => exact ⟨_, rfl, rfl⟩
  | populated frame => exact ⟨_, rfl, rfl⟩

theorem raises (request : Request) : session.Raises env request := by
  cases request with
  | startGeneration prompt device => exact ⟨[], (List.append_nil _).symm, rfl⟩
  | renderDesign payload =>
      cases payload with
      | none => exact session.raises_missing env
      | some payload => exact session.raises_design env payload
  | cancelGeneration => exact session.raises_cancel env
  | finishGeneration => exact session.raises_finish env

/-- A request leaves no notice waiting, and its answer does not depend on those that were. It
carries the notices of this request alone: none for a start, one for a cancel, a finish or an error
of any kind, and for a rendered design one of each class of trouble, however often that occurred,
and one that it is done. -/
theorem handle_notifies (request : Request) :
    let handled := session.handle env request
    handled.2.notifications = [] ∧
      (∀ waiting, { session with notifications := waiting }.handle env request = handled) ∧
      Tells env session.page request handled.1.outcome handled.1.notifications := by
  intro handled
  refine ⟨rfl, fun _ => rfl, ?_⟩
  obtain ⟨notices, raised, tells⟩ := session.takeNotifications.2.raises env request
  have carried : handled.1.notifications = notices := raised
  rw [carried]
  exact tells

end

end Session

end Wireframe
