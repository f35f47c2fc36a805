import Mathlib.Data.List.Induction
import Wireframe.Catalog.Builtin
import Wireframe.Proofs.Session.Effect
/-!
Destinations. When nobody else changes the page, an open destination is its last frame, and it is
empty until a render fills it. So no render misses its destination, and none is filled twice.
-/

namespace Wireframe.Session

inductive Use where
  | view (viewport : Viewport)
  | call (call : Call)

namespace Use

def IsView : Use → Prop
  | .view _ => True
  | .call _ => False

def Starts : Use → Prop
  | .view _ => False
  | .call made => made.Starts

end Use

def use (env : Environment) (session : Session) : Use → Session
  | .view viewport => session.withViewport env viewport
  | .call call => (session.call env call).2

def run (env : Environment) (session : Session) (uses : List Use) : Session :=
  uses.foldl (use env) session

def filled? (env : Environment) (session : Session) : Use → Option Nat
  | .view _ => none
  | .call call =>
      let (reply, after) := session.call env call
      reply.filled? after.state

def fills (env : Environment) (session : Session) : List Use → List Nat
  | [] => []
  | use :: rest => (session.filled? env use).toList ++ (session.use env use).fills env rest

theorem run_append (env : Environment) (session : Session) (before : List Use) (use : Use) :
    session.run env (before ++ [use]) = (session.run env before).use env use :=
  List.foldl_append

theorem fills_append (env : Environment) (session : Session) (before : List Use) (use : Use) :
    session.fills env (before ++ [use]) =
      session.fills env before ++ ((session.run env before).filled? env use).toList := by
  induction before generalizing session with
  | nil => simp [fills, run]
  | cons first rest ih =>
      simp only [List.cons_append, fills, ih, List.append_assoc, run, List.foldl_cons]

/-- The last frame and no other has that number; it is a container, and nothing is in it yet if it
waits. -/
def HasDestination (frames : List Node) (frame : Nat) (waits : Prop) : Prop :=
  ∃ before header content children, frames = before ++ [.container header content children] ∧
    header.id = frame ∧ (∀ other ∈ before, other.id ≠ frame) ∧ (waits → children = [])

/-- What holds between the calls of a session that has the page to itself. -/
structure Sound (page : Page) (state : State) (filled : List Nat) : Prop where
  bounded : page.Bounded
  destination : ∀ frame, state.frame? = some frame →
    HasDestination page.frames frame (state = .awaiting frame)
  past : ∀ frame ∈ filled, frame ≤ page.lastId
  unfilled : ∀ frame, state = .awaiting frame → frame ∉ filled
  nodup : filled.Nodup

namespace Sound

variable {page after : Page} {state later : State} {filled : List Nat}

theorem fresh (viewport : Viewport) (gap : Float32) : Sound (.empty viewport gap) .idle [] where
  bounded := Page.Bounded.empty viewport gap
  destination := nofun
  past := nofun
  unfilled := nofun
  nodup := List.nodup_nil

theorem start {prompt device : String} {result : Except SessionError (Option Nat)}
    (sound : Sound page state filled)
    (effect : Effect page state (some (.startGeneration prompt device)) result after later) :
    Sound after later filled := by
  obtain ⟨rfl, lastId, header, content, next, frames⟩ := effect.start
  have bounded := effect.bounded sound.bounded
  refine ⟨bounded, ?_, ?_, ?_, sound.nodup⟩
  · intro frame opened
    cases opened
    refine ⟨(state.release page).frames, header, content, [], frames, next, ?_, fun _ => rfl⟩
    intro other present same
    have kept := (state.release_drops page).mem present
    have bound := sound.bounded other.id (List.mem_map_of_mem kept)
    omega
  · intro frame earlier
    have bound := sound.past frame earlier
    omega
  · intro frame waits earlier
    cases waits
    have bound := sound.past _ earlier
    omega

theorem found (sound : Sound page state filled) {frame : Nat} (opened : state.frame? = some frame) :
    ∃ header content children, page.frame? frame = some (.container header content children) := by
  obtain ⟨before, header, content, children, split, same, apart, _⟩ :=
    sound.destination frame opened
  refine ⟨header, content, children, ?_⟩
  rw [Page.frame?, split]
  apply List.find?_eq_some_iff_append.mpr
  refine ⟨decide_eq_true same, before, [], rfl, ?_⟩
  intro other present
  simpa using apart other present

theorem fill {request : Option Request} {frame : Nat} (sound : Sound page state filled)
    (effect : Effect page state request (.ok (some frame)) after later) :
    Sound after later (filled ++ [frame]) := by
  have bounded := effect.bounded sound.bounded
  cases effect with
  | filled payload nodes waits found grown =>
      have opened : state.frame? = some frame := congrArg State.frame? waits
      obtain ⟨before, header, content, children, split, same, apart, _⟩ :=
        sound.destination frame opened
      have isFrame : frame ≤ page.lastId := by
        apply sound.bounded
        rw [split, ← same]
        simp [Node.id, Node.header]
      refine ⟨bounded, ?_, ?_, ?_, ?_⟩
      · intro other opened
        cases opened
        refine ⟨before, header, content, children ++ nodes, ?_, same, apart, ?_⟩
        · rw [Page.modify, split]
          have found : (Node.container header content children).id = frame := same
          exact Page.modifyFirst_append apart found [] _
        · intro waits
          cases waits
      · intro other earlier
        rcases List.mem_append.mp earlier with past | last
        · exact Nat.le_trans (sound.past other past) grown
        · rw [List.mem_singleton.mp last]
          exact Nat.le_trans isFrame grown
      · intro other waits
        cases waits
      · rw [List.nodup_append]
        refine ⟨sound.nodup, List.pairwise_singleton _ frame, ?_⟩
        intro other earlier last present same
        cases List.mem_singleton.mp present
        exact sound.unfilled frame waits (same ▸ earlier)

theorem keep {request : Option Request} {result : Except SessionError (Option Nat)}
    (sound : Sound page state filled) (effect : Effect page state request result after later)
    (none : result.toOption.join = none) : Sound after later filled := by
  -- Once the destination is given up, only the numbers matter.
  have idle : later = .idle → Sound after later filled := by
    rintro rfl
    refine ⟨effect.bounded sound.bounded, nofun, ?_, nofun, sound.nodup⟩
    intro frame earlier
    exact Nat.le_trans (sound.past frame earlier) effect.lastId_le
  cases effect with
  | started prompt device name content => exact sound.start (.started prompt device name content)
  | filled payload nodes waits found grown => cases none
  | aborted payload error waits => exact idle rfl
  | lost payload waits gone grown => exact idle rfl
  | cancelled opened => exact idle rfl
  | finished opened => exact idle rfl
  | withoutData waits => exact sound
  | full payload holds => exact sound
  | closed asks idle => exact sound
  | taken => exact sound

theorem step {request : Option Request} {result : Except SessionError (Option Nat)}
    (sound : Sound page state filled) (effect : Effect page state request result after later) :
    Sound after later (filled ++ result.toOption.join.toList) := by
  cases made : result.toOption.join with
  | none =>
      rw [Option.toList_none, List.append_nil]
      exact sound.keep effect made
  | some frame =>
      cases result with
      | error error => cases made
      | ok filled =>
          cases made
          exact sound.fill effect

theorem not_removed {request : Option Request} {frame : Nat} (sound : Sound page state filled) :
    ¬ Effect page state request (.error (.refused (.destinationRemoved frame))) after later := by
  intro effect
  cases effect with
  | lost payload waits gone grown =>
      obtain ⟨header, content, children, found⟩ := sound.found (congrArg State.frame? waits)
      rw [found] at gone
      cases gone

theorem render {payload : Option Payload} {frame : Nat}
    {result : Except SessionError (Option Nat)} (sound : Sound page state filled)
    (effect : Effect page state (some (.renderDesign payload)) result after later)
    (waits : state = .awaiting frame) :
    result.toOption.join = some frame ∨ ∃ error, result = .error (.input error) := by
  subst waits
  cases effect with
  | filled payload nodes waits found grown =>
      cases waits
      exact Or.inl rfl
  | aborted payload error waits => exact Or.inr ⟨error, rfl⟩
  | lost payload waits gone grown early =>
      exact absurd (Effect.lost payload waits gone grown early) sound.not_removed
  | withoutData waits => exact Or.inr ⟨.missing, rfl⟩
  | full payload holds => cases holds
  | closed asks idle => cases idle

end Sound

theorem Effect.idle {page after : Page} {later : State} {request : Option Request}
    {result : Except SessionError (Option Nat)}
    (effect : Effect page .idle request result after later)
    (asks : ∀ prompt device, request ≠ some (.startGeneration prompt device)) :
    later = .idle ∧ result.toOption.join = none := by
  cases effect with
  | started prompt device name content => exact absurd rfl (asks prompt device)
  | closed _ _ => exact ⟨rfl, rfl⟩
  | taken => exact ⟨rfl, rfl⟩
  | cancelled opened => cases opened
  | finished opened => cases opened
  | filled payload nodes waits found grown => cases waits
  | aborted payload error waits => cases waits
  | lost payload waits gone grown => cases waits
  | withoutData waits => cases waits
  | full payload holds => cases holds

section

variable (env : Environment) (viewport : Viewport)

theorem run_idle {uses : List Use} (early : ∀ use ∈ uses, ¬ use.Starts) :
    ((new env viewport).run env uses).state = .idle ∧ (new env viewport).fills env uses = [] := by
  induction uses using List.reverseRecOn with
  | nil => exact ⟨rfl, rfl⟩
  | append_singleton before use ih =>
      obtain ⟨idle, unfilled⟩ := ih fun use member => early use (List.mem_append_left _ member)
      have last := early use (List.mem_append_right _ (List.mem_singleton_self use))
      rw [run_append, fills_append, unfilled]
      cases use with
      | view viewport => exact ⟨idle, rfl⟩
      | call made =>
          obtain ⟨result, effect, reports⟩ :=
            call_effect env ((new env viewport).run env before) made
          rw [idle] at effect
          obtain ⟨later, none⟩ := effect.idle fun prompt device asks => last ⟨prompt, device, asks⟩
          exact ⟨later, congrArg Option.toList (reports.filled?_eq.trans none)⟩

/-- By induction on the uses: a view is chosen before there is anything to lose. -/
theorem run_sound {uses : List Use}
    (chosen : uses.Pairwise fun earlier later => earlier.Starts → ¬ later.IsView) :
    let session := (new env viewport).run env uses
    Sound session.page session.state ((new env viewport).fills env uses) := by
  induction uses using List.reverseRecOn with
  | nil => exact Sound.fresh viewport env.config.frame.gap
  | append_singleton before use ih =>
      obtain ⟨earlier, _, across⟩ := List.pairwise_append.mp chosen
      have sound := ih earlier
      rw [run_append, fills_append]
      cases use with
      | view next =>
          -- The new page counts from zero again, but no number has been given to a destination yet.
          have unopened : ∀ use ∈ before, ¬ use.Starts := by
            intro use member starts
            exact across use member _ (List.mem_singleton_self _) starts trivial
          obtain ⟨idle, unfilled⟩ := run_idle env viewport unopened
          rw [unfilled]
          have fresh := Sound.fresh next env.config.frame.gap
          rw [← idle] at fresh
          exact fresh
      | call made =>
          obtain ⟨result, effect, reports⟩ :=
            call_effect env ((new env viewport).run env before) made
          have next := sound.step effect
          rw [← reports.filled?_eq] at next
          exact next

/-- In a session that has the page to itself an open destination is the last frame, alone has its
number, is a container and, while it waits, is empty. So no call finds it removed, a render that it
waits for fails only for its input, and no destination is filled twice. -/
theorem destination_ready {uses : List Use}
    (chosen : uses.Pairwise fun earlier later => earlier.Starts → ¬ later.IsView) :
    let session := (new env viewport).run env uses
    (∀ frame, session.state.frame? = some frame →
      HasDestination session.page.frames frame (session.state = .awaiting frame)) ∧
    (∀ call id, ¬ (session.call env call).1.Fails (.refused (.destinationRemoved id))) ∧
    (∀ frame call payload, session.state = .awaiting frame →
      call.request? = some (.renderDesign payload) →
      session.filled? env (.call call) = some frame ∨
        ∃ error, (session.call env call).1.Fails (.input error)) ∧
    ((new env viewport).fills env uses).Nodup := by
  intro session
  have sound := run_sound env viewport chosen
  refine ⟨sound.destination, ?_, ?_, sound.nodup⟩
  · intro call id fails
    obtain ⟨result, effect, reports⟩ := call_effect env session call
    obtain ⟨other, rfl⟩ := reports.removed fails
    exact sound.not_removed effect
  · intro frame call payload waits asks
    obtain ⟨result, effect, reports⟩ := call_effect env session call
    rw [asks] at effect
    exact (sound.render effect waits).imp (fun filled => reports.filled?_eq.trans filled)
      fun ⟨error, fails⟩ => ⟨error, by rw [fails] at reports; exact reports⟩

/-- The destination of a second generation, after the first was filled. -/
theorem destination_ready_again :
    let env : Environment := ⟨.standard, .builtin, Font.ofFaces (Font.family "Inter"), .library⟩
    let uses : List Use := [.view .origin, .call (.start "a login page" "mobile"),
      .call (.render (.tree (.array []))), .call (.handle (.startGeneration "a cart" "desktop"))]
    let session := (new env .origin).run env uses
    (uses.Pairwise fun earlier later => earlier.Starts → ¬ later.IsView) ∧
      session.state = .awaiting 2 ∧ HasDestination session.page.frames 2 True ∧
      (new env .origin).fills env uses = [1] := by
  intro env uses session
  have chosen : uses.Pairwise fun earlier later => earlier.Starts → ¬ later.IsView := by
    simp [uses, Use.Starts, Use.IsView]
  have waits : session.state = .awaiting 2 := rfl
  have ready := (destination_ready env .origin chosen).1 2 (congrArg State.frame? waits)
  rw [eq_true waits] at ready
  exact ⟨chosen, waits, ready, rfl⟩

end

end Wireframe.Session
