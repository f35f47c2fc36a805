import Wireframe.Page.Basic
import Wireframe.Render.Renderer
import Wireframe.Session.Message
/-!
Sessions: a page with at most one open destination. Starting opens an empty destination, rendering
fills it, cancelling removes it and finishing leaves it on the page. A request that needs a
destination is refused when there is none.
-/

namespace Wireframe

inductive Refusal where
  | noActiveDestination
  | destinationRemoved (id : Nat)
  | alreadyRendered
  deriving DecidableEq, Repr

def Refusal.message : Refusal → String
  | .noActiveDestination => "no active destination frame; start a new generation first"
  | .destinationRemoved id => "destination frame #" ++ toString id ++ " was removed"
  | .alreadyRendered => "destination frame already holds a rendered design"

inductive SessionError where
  | refused (refusal : Refusal)
  | input (error : InputError)
  deriving DecidableEq

def SessionError.message : SessionError → String
  | .refused refusal => refusal.message
  | .input error => error.message

namespace Session

/-- Whether a destination is open: not at all, empty, or with its design. -/
inductive State where
  | idle
  | awaiting (frame : Nat)
  | populated (frame : Nat)
  deriving DecidableEq, Repr

def State.frame? : State → Option Nat
  | .idle => none
  | .awaiting frame | .populated frame => some frame

def State.word : State → String
  | .idle => "Idle"
  | .awaiting _ => "Awaiting"
  | .populated _ => "Populated"

structure Report where
  frame : Nat
  nodeCount : Nat
  diagnostics : Diagnostics
  deriving DecidableEq

def frameLost : String := "Target frame lost. Please start over."

def rendered : String := "Feature rendered!"

def invalidData : String := "Invalid data."

def cancelled : String := "Cancelled and frame removed."

def finished : String := "Prototype finished. Ready for a new design."

def alreadyRendered : String := "Design already rendered. Start a new generation."

def refusalNotice : Refusal → String
  | .alreadyRendered => alreadyRendered
  | .noActiveDestination | .destinationRemoved _ => frameLost

def classNotice (diagnostics : Diagnostics) : FailureClass → String
  | .nodeBuild =>
      match diagnostics.failures with
      | [only] => "Render error on " ++ only.tag ++ ". Check console."
      | failures =>
          "Render errors on " ++ toString failures.length ++ " components. Check console."
  | .vector => "Error creating SVG icon. See console."

end Session

structure Session where
  page : Page
  state : Session.State
  notifications : List String

namespace Session

def new (env : Environment) (viewport : Viewport) : Session :=
  ⟨.empty viewport env.config.frame.gap, .idle, []⟩

def withViewport (env : Environment) (viewport : Viewport) (session : Session) : Session :=
  { session with page := .empty viewport env.config.frame.gap }

def notify (message : String) (session : Session) : Session :=
  { session with notifications := session.notifications ++ [message] }

def takeNotifications (session : Session) : List String × Session :=
  (session.notifications, { session with notifications := [] })

def editPage (edit : Page.Edit) (session : Session) : Session :=
  { session with page := session.page.edit edit }

def previewLength : Nat := 20

def frameName (prompt : String) (device : Device) : String :=
  "AI Proto - " ++ String.ofList (prompt.toList.take previewLength) ++ "... (" ++ device.name ++ ")"

def destinationFrame (style : FrameStyle) (device : Device) : Frame :=
  { Frame.plain device.size with
    layout := .vertical
    padding := .uniform style.padding
    spacing := style.spacing
    fills := [.solid style.background]
    clipsContent := true }

/-- The page without a destination that is still waiting for its design. -/
def State.release (page : Page) : State → Page
  | .awaiting frame => page.remove frame
  | .idle | .populated _ => page

/-- Opens a destination. One that is open is released first: it leaves the page if it is still
waiting for its design, and stays otherwise. -/
def start (env : Environment) (prompt device : String) (session : Session) : Nat × Session :=
  let device := env.config.device device
  let (id, page) := (session.state.release session.page).add
    (.frame (frameName prompt device) (destinationFrame env.config.frame device))
  (id, { session with page, state := .awaiting id })

def refuse (refusal : Refusal) (session : Session) : Session :=
  session.notify (refusalNotice refusal)

/-- Refuses a request whose destination is gone; the session is closed. -/
def lose (frame : Nat) (session : Session) : Refusal × Session :=
  let refusal := Refusal.destinationRemoved frame
  (refusal, { session with state := .idle }.refuse refusal)

def abort (frame : Nat) (error : InputError) (session : Session) : Session :=
  { session with page := session.page.remove frame, state := .idle }.notify
    ("Render error: " ++ error.message ++ ".")

def destination (session : Session) : Except Refusal Nat × Session :=
  match session.state with
  | .idle => (.error .noActiveDestination, session.refuse .noActiveDestination)
  | .populated _ => (.error .alreadyRendered, session.refuse .alreadyRendered)
  | .awaiting frame =>
      match session.page.frame? frame with
      | some _ => (.ok frame, session)
      | none =>
          let (refusal, session) := session.lose frame
          (.error refusal, session)

def attach (frame : Nat) (nodes : List Node) (renderer : Renderer) (session : Session) :
    Except SessionError Report × Session :=
  let page := { session.page with lastId := renderer.lastId }
  match (page.frame? frame).bind Node.frame? with
  | none =>
      let (refusal, session) := { session with page }.lose frame
      (.error (.refused refusal), session)
  | some _ =>
      let notices := renderer.log.classes.map (classNotice renderer.log) ++ [rendered]
      (.ok ⟨frame, nodes.length, renderer.log⟩,
        { page := page.modify frame (·.append nodes)
          state := .populated frame
          notifications := session.notifications ++ notices })

def render (env : Environment) (payload : Payload) (session : Session) :
    Except SessionError Report × Session :=
  match session.destination with
  | (.error refusal, session) => (.error (.refused refusal), session)
  | (.ok frame, session) =>
      match payload.toTree with
      | .error fault =>
          (.error (.input (.unreadable fault)), session.abort frame (.unreadable fault))
      | .ok value =>
          match (Renderer.fresh session.page.lastId).tree env value with
          | (.error error, _) => (.error (.input error), session.abort frame error)
          | (.ok nodes, renderer) => session.attach frame nodes renderer

/-- Answers a render request without data; the destination stays open for another try. -/
def rejectMissing (session : Session) : SessionError × Session :=
  match session.destination with
  | (.error refusal, session) => (.refused refusal, session)
  | (.ok _, session) => (.input .missing, session.notify invalidData)

def cancel (session : Session) : Except Refusal Unit × Session :=
  match session.state.frame? with
  | none => (.error .noActiveDestination, session.refuse .noActiveDestination)
  | some frame =>
      (.ok (),
        { session with page := session.page.remove frame, state := .idle }.notify cancelled)

def finish (session : Session) : Except Refusal Unit × Session :=
  match session.state.frame? with
  | none => (.error .noActiveDestination, session.refuse .noActiveDestination)
  | some _ => (.ok (), { session with state := .idle }.notify finished)

def answer (env : Environment) (request : Request) (session : Session) : Outcome × Session :=
  match request with
  | .startGeneration prompt device =>
      let (id, session) := session.start env prompt device
      (.generationStarted id (((session.page.frame? id).map Node.name).getD ""), session)
  | .renderDesign (some payload) =>
      match session.render env payload with
      | (.ok report, session) => (.generationComplete report.nodeCount, session)
      | (.error error, session) => (.error error.message, session)
  | .renderDesign none =>
      let (error, session) := session.rejectMissing
      (.error error.message, session)
  | .cancelGeneration =>
      match session.cancel with
      | (.ok (), session) => (.cancelled, session)
      | (.error refusal, session) => (.error refusal.message, session)
  | .finishGeneration =>
      match session.finish with
      | (.ok (), session) => (.finished, session)
      | (.error refusal, session) => (.error refusal.message, session)

/-- Runs a request. The response carries the notifications of this request and no earlier ones. -/
def handle (env : Environment) (request : Request) (session : Session) : Response × Session :=
  let (outcome, session) := session.takeNotifications.2.answer env request
  let (notifications, session) := session.takeNotifications
  (⟨outcome, notifications⟩, session)

end Session

end Wireframe
