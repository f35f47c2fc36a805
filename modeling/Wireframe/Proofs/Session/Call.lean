import Wireframe.Session.Basic

namespace Wireframe

theorem Text.getElem?_append_left {first : String} {place : Nat} {char : Char}
    (found : first.toList[place]? = some char) (second : String) :
    (first ++ second).toList[place]? = some char := by
  rw [String.toList_append, List.getElem?_append_left (List.getElem?_eq_some_iff.mp found).1]
  exact found

theorem InputError.first_message (error : InputError) : error.message.toList[0]? = some 'r' := by
  cases error with
  | notAList found => exact Text.getElem?_append_left (by decide) _
  | unreadable fault => exact Text.getElem?_append_left (by decide) _
  | missing => decide

namespace Refusal

theorem removed_message {place : Nat} {char : Char}
    (found : "destination frame #".toList[place]? = some char) (id : Nat) :
    (destinationRemoved id).message.toList[place]? = some char :=
  Text.getElem?_append_left (Text.getElem?_append_left found _) _

theorem first_message (refusal : Refusal) : refusal.message.toList[0]? ≠ some 'r' := by
  cases refusal with
  | noActiveDestination => decide
  | destinationRemoved id =>
      have first : "destination frame #".toList[0]? = some 'd' := by decide
      rw [removed_message first]
      decide
  | alreadyRendered => decide

theorem message_ne_input (refusal : Refusal) (error : InputError) :
    refusal.message ≠ error.message := by
  intro same
  apply refusal.first_message
  rw [same, error.first_message]

theorem removed_of_message {refusal : Refusal} {id : Nat}
    (same : refusal.message = (destinationRemoved id).message) :
    ∃ other, refusal = .destinationRemoved other := by
  -- Two of the messages start alike and part after eighteen characters.
  have mark : refusal.message.toList[18]? = some '#' := by
    rw [same]
    exact removed_message (by decide) id
  cases refusal with
  | destinationRemoved other => exact ⟨other, rfl⟩
  | noActiveDestination => exact absurd mark (by decide)
  | alreadyRendered => exact absurd mark (by decide)

end Refusal

namespace Session

inductive Call where
  | start (prompt device : String)
  | render (payload : Payload)
  | cancel
  | finish
  | handle (request : Request)
  | takeNotifications

/-- What a call asks for; taking the notifications asks for nothing. -/
def Call.request? : Call → Option Request
  | .start prompt device => some (.startGeneration prompt device)
  | .render payload => some (.renderDesign (some payload))
  | .cancel => some .cancelGeneration
  | .finish => some .finishGeneration
  | .handle request => some request
  | .takeNotifications => none

def Call.Starts (call : Call) : Prop :=
  ∃ prompt device, call.request? = some (.startGeneration prompt device)

inductive Reply where
  | started (id : Nat)
  | rendered (result : Except SessionError Report)
  | closed (result : Except Refusal Unit)
  | answered (response : Response)
  | taken (notifications : List String)

def call (env : Environment) (session : Session) : Call → Reply × Session
  | .start prompt device =>
      let (id, session) := session.start env prompt device
      (.started id, session)
  | .render payload =>
      let (result, session) := session.render env payload
      (.rendered result, session)
  | .cancel =>
      let (result, session) := session.cancel
      (.closed result, session)
  | .finish =>
      let (result, session) := session.finish
      (.closed result, session)
  | .handle request =>
      let (response, session) := session.handle env request
      (.answered response, session)
  | .takeNotifications =>
      let (notifications, session) := session.takeNotifications
      (.taken notifications, session)

namespace Reply

def Fails (error : SessionError) : Reply → Prop
  | .rendered result => result = .error error
  | .closed result => ∃ refusal, result = .error refusal ∧ error = .refused refusal
  | .answered response => response.outcome = .error error.message
  | .started _ | .taken _ => False

/-- The frame that a successful render filled; an answer does not name it, but it is then that of
the state. -/
def filled? (state : State) : Reply → Option Nat
  | .rendered (.ok report) => some report.frame
  | .answered ⟨.generationComplete _, _⟩ => state.frame?
  | _ => none

def message? : Reply → Option String
  | .rendered (.error error) => some error.message
  | .closed (.error refusal) => some refusal.message
  | .answered ⟨.error message, _⟩ => some message
  | _ => none

theorem Fails.message {error : SessionError} {reply : Reply} (fails : reply.Fails error) :
    reply.message? = some error.message := by
  cases reply with
  | started id => cases fails
  | rendered result =>
      cases fails
      rfl
  | closed result =>
      obtain ⟨refusal, rfl, rfl⟩ := fails
      rfl
  | answered response =>
      obtain ⟨outcome, notifications⟩ := response
      cases fails
      rfl
  | taken notifications => cases fails

theorem filled?_of_message {reply : Reply} {message : String}
    (present : reply.message? = some message) (state : State) : reply.filled? state = none := by
  cases reply with
  | started id => rfl
  | rendered result =>
      cases result with
      | ok report => cases present
      | error error => rfl
  | closed result => rfl
  | answered response =>
      obtain ⟨outcome, notifications⟩ := response
      cases outcome with
      | generationComplete nodeCount => cases present
      | _ => rfl
  | taken notifications => rfl

/-- A reply tells how a call ended; `state` is that after the call. -/
def Reports (state : State) (reply : Reply) : Except SessionError (Option Nat) → Prop
  | .ok frame => reply.message? = none ∧ reply.filled? state = frame
  | .error error => reply.Fails error

end Reply

namespace Reply.Reports

variable {reply : Reply} {state : State} {result : Except SessionError (Option Nat)}

theorem filled?_eq (reports : reply.Reports state result) :
    reply.filled? state = result.toOption.join := by
  cases result with
  | ok frame => exact reports.2
  | error error => exact filled?_of_message (Fails.message reports) state

theorem filled {frame : Nat} (reports : reply.Reports state result)
    (fills : reply.filled? state = some frame) : result = .ok (some frame) := by
  rw [reports.filled?_eq] at fills
  cases result with
  | ok filled => exact congrArg Except.ok fills
  | error error => cases fills

theorem error {error : SessionError} (reports : reply.Reports state result)
    (fails : reply.Fails error) :
    ∃ other, result = .error other ∧ other.message = error.message := by
  have known := fails.message
  cases result with
  | ok filled => cases known.symm.trans reports.1
  | error other =>
      exact ⟨other, rfl, Option.some.inj ((Fails.message reports).symm.trans known)⟩

theorem refused {refusal : Refusal} (reports : reply.Reports state result)
    (fails : reply.Fails (.refused refusal)) :
    ∃ other, result = .error (.refused other) ∧ other.message = refusal.message := by
  obtain ⟨other, rfl, same⟩ := reports.error fails
  cases other with
  | refused other => exact ⟨other, rfl, same⟩
  | input other => exact absurd same.symm (refusal.message_ne_input other)

theorem removed {id : Nat} (reports : reply.Reports state result)
    (fails : reply.Fails (.refused (.destinationRemoved id))) :
    ∃ other, result = .error (.refused (.destinationRemoved other)) := by
  obtain ⟨refusal, rfl, same⟩ := reports.refused fails
  obtain ⟨other, rfl⟩ := Refusal.removed_of_message same
  exact ⟨other, rfl⟩

theorem input {error : InputError} (reports : reply.Reports state result)
    (fails : reply.Fails (.input error)) : ∃ other, result = .error (.input other) := by
  obtain ⟨other, rfl, same⟩ := reports.error fails
  cases other with
  | refused other => exact absurd same (other.message_ne_input error)
  | input other => exact ⟨other, rfl⟩

end Reply.Reports

end Session

end Wireframe
