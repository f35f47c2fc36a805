import Wireframe.Catalog.Builtin
import Wireframe.Proofs.Session.Effect
/-!
What a session leaves alone. A call touches no frame but the open destination, whatever is done to
the page between the calls, and never comes back to a frame that it has let go.
-/

namespace Wireframe.Session

inductive Action where
  | call (call : Call)
  | edit (edit : Page.Edit)

def act (env : Environment) (session : Session) : Action → Session
  | .call made => (session.call env made).2
  | .edit edit => session.editPage edit

def acts (env : Environment) (session : Session) (actions : List Action) : Session :=
  actions.foldl (act env) session

namespace Effect

variable {page after : Page} {state later : State} {request : Option Request}
variable {result : Except SessionError (Option Nat)}

theorem others (effect : Effect page state request result after later)
    (asks : ∀ prompt device, request ≠ some (.startGeneration prompt device)) :
    Page.others state.frame? after.frames = Page.others state.frame? page.frames := by
  cases effect with
  | started prompt device name content => exact absurd rfl (asks prompt device)
  | filled payload nodes waits found grown =>
      rw [waits]
      exact Page.others_modify _ (Node.id_append nodes) _
  | aborted payload error waits =>
      rw [waits]
      exact (Page.remove_drops _ page).others
  | cancelled opened =>
      rw [opened]
      exact (Page.remove_drops _ page).others
  | lost payload waits gone grown => rfl
  | finished opened => rfl
  | withoutData waits => rfl
  | full payload holds => rfl
  | closed asks idle => rfl
  | taken => rfl

theorem fill {frame : Nat} (effect : Effect page state request (.ok (some frame)) after later) :
    ∃ front header content children back nodes, header.id = frame ∧ state = .awaiting frame ∧
      page.frames = front ++ .container header content children :: back ∧
      after.frames = front ++ .container header content (children ++ nodes) :: back := by
  cases effect with
  | filled payload nodes waits found grown =>
      obtain ⟨front, back, split, same, changed⟩ := Page.frame?_split found
      have grown := changed (·.append nodes)
      exact ⟨front, _, _, _, back, nodes, same, waits, split, grown⟩

theorem cancel (effect : Effect page state (some .cancelGeneration) result after later) :
    Page.DropsAtMost state.frame? page.frames after.frames := by
  cases effect with
  | cancelled opened =>
      rw [opened]
      exact Page.remove_drops _ page
  | closed asks idle => exact Or.inl rfl

theorem finish (effect : Effect page state (some .finishGeneration) result after later) :
    after.frames = page.frames ∧ later = .idle := by
  cases effect with
  | finished opened => exact ⟨rfl, rfl⟩
  | closed asks idle => exact ⟨rfl, idle⟩

theorem input {error : InputError}
    (effect : Effect page state request (.error (.input error)) after later) :
    Page.DropsAtMost state.frame? page.frames after.frames := by
  cases effect with
  | aborted payload error waits =>
      rw [waits]
      exact Page.remove_drops _ page
  | withoutData waits => exact Or.inl rfl

theorem refused {refusal : Refusal}
    (effect : Effect page state request (.error (.refused refusal)) after later) :
    after.frames = page.frames := by
  cases effect with
  | lost payload waits gone grown => rfl
  | full payload holds => rfl
  | closed asks idle => rfl

end Effect

/-- What a call does to the frames of the page. Those of other numbers than the destination stay as
they are, in their order. A start removes at most a destination that still waits and adds one frame
at the end, a successful render appends children to the destination and changes nothing else of it,
a cancel or an unusable input removes at most the destination, and nothing else changes a frame. -/
structure Spares (session : Session) (call : Call) (reply : Reply) (after : Session) : Prop where
  others : ¬ call.Starts →
    Page.others session.state.frame? after.page.frames =
      Page.others session.state.frame? session.page.frames
  start : call.Starts → ∃ kept frame, after.page.frames = kept ++ [frame] ∧
    Page.DropsAtMost session.state.awaited? session.page.frames kept ∧
    ∀ old ∈ session.page.frames, old.id ≠ frame.id
  fill : ∀ id, reply.filled? after.state = some id →
    ∃ front header content children back nodes, header.id = id ∧ session.state = .awaiting id ∧
      session.page.frames = front ++ .container header content children :: back ∧
      after.page.frames = front ++ .container header content (children ++ nodes) :: back
  cancel : call.request? = some .cancelGeneration →
    Page.DropsAtMost session.state.frame? session.page.frames after.page.frames
  input : ∀ error, reply.Fails (.input error) →
    Page.DropsAtMost session.state.frame? session.page.frames after.page.frames
  finish : call.request? = some .finishGeneration → after.page.frames = session.page.frames
  refused : ∀ refusal, reply.Fails (.refused refusal) → after.page.frames = session.page.frames

section

variable (env : Environment)

theorem call_spares {session : Session} (bounded : session.page.Bounded) (call : Call) :
    Spares session call (session.call env call).1 (session.call env call).2 := by
  obtain ⟨result, effect, reports⟩ := call_effect env session call
  constructor
  · intro starts
    exact effect.others fun prompt device asks => starts ⟨prompt, device, asks⟩
  · rintro ⟨prompt, device, asks⟩
    rw [asks] at effect
    obtain ⟨_, _, header, content, next, frames⟩ := effect.start
    refine ⟨_, _, frames, session.state.release_drops session.page, ?_⟩
    intro old present same
    have bound := bounded old.id (List.mem_map_of_mem present)
    have new : old.id = session.page.lastId + 1 := same.trans next
    omega
  · intro id fills
    obtain rfl := reports.filled fills
    exact effect.fill
  · intro asks
    rw [asks] at effect
    exact effect.cancel
  · intro error fails
    obtain ⟨other, rfl⟩ := reports.input fails
    exact effect.input
  · intro asks
    rw [asks] at effect
    exact effect.finish.1
  · intro refusal fails
    obtain ⟨other, rfl, _⟩ := reports.refused fails
    exact effect.refused

/-- What holds of a session whatever is done to its page: no number of a frame or of the destination
is still to come. -/
structure Steady (session : Session) : Prop where
  bounded : session.page.Bounded
  opened : ∀ frame, session.state.frame? = some frame → frame ≤ session.page.lastId

theorem Steady.new (viewport : Viewport) : Steady (new env viewport) where
  bounded := Page.Bounded.empty viewport env.config.frame.gap
  opened := nofun

theorem Steady.act {session : Session} (steady : Steady session) (action : Action) :
    Steady (session.act env action) := by
  cases action with
  | call made =>
      obtain ⟨result, effect, _⟩ := call_effect env session made
      refine ⟨effect.bounded steady.bounded, ?_⟩
      intro frame opened
      have grown := effect.lastId_le
      rcases effect.opened opened with before | ⟨new, next⟩
      · exact Nat.le_trans (steady.opened frame before) grown
      · exact Nat.le_of_eq (new.trans next.symm)
  | edit edit =>
      refine ⟨steady.bounded.edit edit, ?_⟩
      intro frame opened
      exact Nat.le_trans (steady.opened frame opened) (Page.lastId_edit session.page edit)

theorem Steady.acts {session : Session} (steady : Steady session) (actions : List Action) :
    Steady (session.acts env actions) := by
  induction actions generalizing session with
  | nil => exact steady
  | cons action rest ih => exact ih (steady.act env action)

structure Past (frame : Nat) (session : Session) : Prop where
  given : frame ≤ session.page.lastId
  apart : session.state.frame? ≠ some frame

namespace Past

variable {frame : Nat} {session : Session}

theorem act (past : Past frame session) (action : Action) :
    Past frame (session.act env action) := by
  cases action with
  | call made =>
      obtain ⟨result, effect, _⟩ := call_effect env session made
      refine ⟨Nat.le_trans past.given effect.lastId_le, ?_⟩
      intro opened
      rcases effect.opened opened with before | ⟨new, _⟩
      · exact past.apart before
      · have given := past.given
        omega
  | edit edit =>
      exact ⟨Nat.le_trans past.given (Page.lastId_edit session.page edit), past.apart⟩

theorem acts (past : Past frame session) (actions : List Action) :
    Past frame (session.acts env actions) := by
  induction actions generalizing session with
  | nil => exact past
  | cons action rest ih => exact ih (past.act env action)

theorem call (past : Past frame session) (made : Call) :
    Page.only frame (session.call env made).2.page.frames =
      Page.only frame session.page.frames := by
  obtain ⟨result, effect, _⟩ := call_effect env session made
  by_cases starts : made.Starts
  · obtain ⟨prompt, device, asks⟩ := starts
    rw [asks] at effect
    obtain ⟨_, _, header, content, next, frames⟩ := effect.start
    -- Only a destination that waits is removed, and the new frame has a higher number.
    have kept := (session.state.release_drops session.page).others
    have waits : session.state.awaited? ≠ some frame :=
      fun waits => past.apart (State.frame?_of_awaited waits)
    have apart : header.id ≠ frame := by
      have given := past.given
      omega
    have new : Page.only frame [.container header content []] = [] := by
      simp [Page.only, Node.id, Node.header, apart]
    rw [frames, Page.only_append, new, List.append_nil, ← Page.only_others waits, kept,
      Page.only_others waits]
  · have others := effect.others fun prompt device asks => starts ⟨prompt, device, asks⟩
    rw [← Page.only_others past.apart, others, Page.only_others past.apart]

end Past

/-- A call that lets go of a frame and leaves it on the page: a finish, or a start when the frame
has its design. -/
def LetsGo (session : Session) (call : Call) (frame : Nat) : Prop :=
  (session.state.frame? = some frame ∧ call.request? = some .finishGeneration) ∨
    (session.state = .populated frame ∧ call.Starts)

theorem LetsGo.past {session : Session} {call : Call} {frame : Nat} (steady : Steady session)
    (letsGo : LetsGo session call frame) : Past frame (session.call env call).2 := by
  obtain ⟨result, effect, _⟩ := call_effect env session call
  rcases letsGo with ⟨opened, asks⟩ | ⟨populated, prompt, device, asks⟩
  · refine ⟨Nat.le_trans (steady.opened frame opened) effect.lastId_le, ?_⟩
    rw [asks] at effect
    rw [effect.finish.2]
    nofun
  · have given := steady.opened frame (congrArg State.frame? populated)
    refine ⟨Nat.le_trans given effect.lastId_le, ?_⟩
    rw [asks] at effect
    rw [effect.start.1]
    intro new
    have next : session.page.lastId + 1 = frame := Option.some.inj new
    omega

/-- Whatever else is done to the page, each call touches no frame but the open destination, and a
frame that the session has let go is out of reach of all later calls. -/
theorem calls_spare_frames (viewport : Viewport) (actions : List Action) :
    let session := (new env viewport).acts env actions
    (∀ call, Spares session call (session.call env call).1 (session.call env call).2) ∧
    (∀ closing frame, LetsGo session closing frame → ∀ (later : List Action) (call : Call),
      let between := (session.call env closing).2.acts env later
      Page.only frame (between.call env call).2.page.frames =
        Page.only frame between.page.frames) := by
  intro session
  have steady : Steady session := (Steady.new env viewport).acts env actions
  refine ⟨call_spares env steady.bounded, ?_⟩
  intro closing frame letsGo later call
  exact ((letsGo.past env steady).acts env later).call env call

/-- A finished frame that is moved from outside and left alone by a later cancel. -/
theorem calls_spare_frames_finished :
    let env : Environment := ⟨.standard, .builtin, Font.ofFaces (Font.family "Inter"), .library⟩
    let actions : List Action := [.call (.start "a login page" "mobile"),
      .call (.render (.tree (.array []))), .edit .takeId]
    let session := (new env .origin).acts env actions
    let closing : Call := .handle .finishGeneration
    let later : List Action := [.edit (.move 1 none), .call (.start "a cart" "desktop")]
    let between := (session.call env closing).2.acts env later
    LetsGo session closing 1 ∧ between.state = .awaiting 3 ∧
      (Page.only 1 between.page.frames).length = 1 ∧
      Page.only 1 (between.call env .cancel).2.page.frames = Page.only 1 between.page.frames := by
  intro env actions session closing later between
  have letsGo : LetsGo session closing 1 := Or.inl ⟨rfl, rfl⟩
  have spared := (calls_spare_frames env .origin actions).2 closing 1 letsGo later .cancel
  exact ⟨letsGo, rfl, rfl, spared⟩

end

end Wireframe.Session
