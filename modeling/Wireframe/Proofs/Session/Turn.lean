import Wireframe.Proofs.Session.Identity
/-!
Destinations on a page that others work on. Others may do to a page what they like, as long as they
number nodes with what the page gives them and make nothing else out of a container. Then an open
destination that is still there is a container, and one that waits is empty if nobody fills it.
-/

namespace Wireframe

namespace Node

/-- A container, with nothing in it if `empty`. -/
structure IsDestination (empty : Prop) (node : Node) : Prop where
  container : node.frame?.isSome
  children : empty → node.children = []

namespace IsDestination

variable {empty : Prop} {node : Node}

theorem loosen {weaker : Prop} (fits : node.IsDestination empty) (imp : weaker → empty) :
    node.IsDestination weaker :=
  ⟨fits.container, fun still => fits.children (imp still)⟩

theorem append (fits : node.IsDestination empty) (free : ¬ empty) (more : List Node) :
    (node.append more).IsDestination empty := by
  refine ⟨?_, fun still => absurd still free⟩
  cases node with
  | leaf header content => exact fits.container
  | container header frame children => rfl

theorem removeChild (fits : node.IsDestination empty) (id : Nat) :
    (node.removeChild id).IsDestination empty := by
  constructor
  · cases node with
    | leaf header content => exact fits.container
    | container header frame children => rfl
  · intro still
    rw [children_removeChild, fits.children still, List.eraseP_nil]

theorem withPosition (fits : node.IsDestination empty) (position : Option Point) :
    (node.withPosition position).IsDestination empty := by
  cases node with
  | leaf header content => exact ⟨fits.container, fun _ => rfl⟩
  | container header frame children => exact ⟨rfl, fits.children⟩

theorem resize (fits : node.IsDestination empty) (size : Size) :
    (node.resize size).IsDestination empty := by
  cases node with
  | leaf header content => exact ⟨fits.container, fun _ => rfl⟩
  | container header frame children => exact ⟨rfl, fits.children⟩

end IsDestination

end Node

theorem Page.Each.edit {page : Page} {id : Nat} {empty : Prop}
    (each : page.Each id (Node.IsDestination empty)) (given : id ≤ page.lastId) (edit : Page.Edit)
    (fills : ∀ draft, edit = .appendChild id draft → ¬ empty) :
    (page.edit edit).Each id (Node.IsDestination empty) := by
  cases edit with
  | takeId => exact each
  | add draft => exact each.add given draft
  | appendChild frame draft =>
      have each : page.freshId.2.Each id (Node.IsDestination empty) := each
      apply each.modify frame (Node.id_append _)
      rintro rfl node fits
      exact fits.append (fills draft rfl) _
  | removeChild frame child =>
      exact each.modify frame (Node.id_removeChild child) fun _ _ fits => fits.removeChild child
  | remove frame => exact each.remove frame
  | move frame position =>
      exact each.modify frame (Node.id_withPosition position)
        fun _ _ fits => fits.withPosition position
  | resize frame size =>
      exact each.modify frame (Node.id_resize size) fun _ _ fits => fits.resize size

namespace Session

/-- After a call an open destination is a container. One that waits has just been started, or it was
there before and is as empty as it was. -/
theorem Effect.destination {page after : Page} {state later : State} {request : Option Request}
    {result : Except SessionError (Option Nat)} {alone : Nat → Prop}
    (effect : Effect page state request result after later) (bounded : page.Bounded)
    (before : ∀ frame, state.frame? = some frame →
      page.Each frame (Node.IsDestination (state = .awaiting frame ∧ alone frame)))
    {frame : Nat} (opened : later.frame? = some frame) :
    after.Each frame (Node.IsDestination (later = .awaiting frame ∧ alone frame)) := by
  cases effect with
  | started prompt device name content =>
      cases opened
      intro node present same
      rcases List.mem_append.mp present with old | new
      · -- No frame from before has the next number.
        have kept := (state.release_drops page).mem old
        have bound := bounded node.id (List.mem_map_of_mem kept)
        omega
      · rw [List.mem_singleton.mp new]
        exact ⟨rfl, fun _ => rfl⟩
  | filled payload nodes waits found grown =>
      cases opened
      subst waits
      have full : ¬ (State.populated frame = .awaiting frame ∧ alone frame) := nofun ∘ And.left
      have each : Page.Each frame _ { page with lastId := _ } := (before frame rfl).imp
        fun node fits => fits.loosen fun still => absurd still full
      exact each.modify frame (Node.id_append nodes) fun _ node fits => fits.append full nodes
  | withoutData waits => exact before frame opened
  | full payload holds => exact before frame opened
  | closed asks idle => exact before frame opened
  | taken => exact before frame opened
  | _ => cases opened

end Session

namespace Host

/-- What may happen to a session on a page that others work on as well: a call, an edit, a number
that is taken, a node under such a number that is put on the page, or any work in a frame that keeps
its number and its sort. Others fill an empty frame only where `allowed` lets them. -/
inductive Turn (env : Environment) (allowed : Session.State → Nat → Prop) (host : Host) :
    Host → Prop
  | call (call : Session.Call) :
      Turn env allowed host { host with session := (host.session.call env call).2 }
  | edit (edit : Page.Edit)
      (fills : ∀ frame draft, edit = .appendChild frame draft →
        allowed host.session.state frame) :
      Turn env allowed host { host with session := host.session.editPage edit }
  | take :
      Turn env allowed host (host.withPage host.session.page.freshId.2
        (host.spare ++ [host.session.page.freshId.1]))
  | place (node : Node) {rest : List Nat} (own : node.id ∈ host.spare) (kept : rest ⊆ host.spare) :
      Turn env allowed host (host.withPage (host.session.page.place node) rest)
  | work (frame : Nat) {change : Node → Node} {rest : List Nat} (kept : rest ⊆ host.spare)
      (number : ∀ node, (change node).id = node.id)
      (sort : ∀ node, (change node).frame?.isSome = node.frame?.isSome)
      (fills : allowed host.session.state frame ∨
        ∀ node, node.children = [] → (change node).children = []) :
      Turn env allowed host (host.withPage (host.session.page.modify frame change) rest)

abbrev Turns (env : Environment) (allowed : Session.State → Nat → Prop) : Host → Host → Prop :=
  Relation.ReflTransGen (Turn env allowed)

def anywhere : Session.State → Nat → Prop := fun _ _ => True

def elsewhere : Session.State → Nat → Prop := fun state frame => state ≠ .awaiting frame

/-- What holds whatever others do: numbers that they have taken are not still to come and are not
that of the destination, which is a container, and empty if it waits and others may not fill it. -/
structure Tended (allowed : Session.State → Nat → Prop) (host : Host) : Prop where
  bounded : host.session.page.Bounded
  spare : ∀ id ∈ host.spare, id ≤ host.session.page.lastId
  opened : ∀ frame, host.session.state.frame? = some frame →
    frame ≤ host.session.page.lastId ∧ frame ∉ host.spare
  destination : ∀ frame, host.session.state.frame? = some frame →
    host.session.page.Each frame (Node.IsDestination
      (host.session.state = .awaiting frame ∧ ¬ allowed (.awaiting frame) frame))

namespace Tended

variable {env : Environment} {allowed : Session.State → Nat → Prop} {host after : Host}

theorem new (viewport : Viewport) : Tended allowed (new env viewport) where
  bounded := Page.Bounded.empty viewport env.config.frame.gap
  spare := nofun
  opened := nofun
  destination := nofun

theorem call (tended : Tended allowed host) (call : Session.Call) :
    Tended allowed { host with session := (host.session.call env call).2 } := by
  obtain ⟨result, effect, _⟩ := host.session.call_effect env call
  have grown := effect.lastId_le
  refine ⟨effect.bounded tended.bounded, ?_, ?_, ?_⟩
  · intro id taken
    exact Nat.le_trans (tended.spare id taken) grown
  · intro frame opened
    rcases effect.opened opened with before | ⟨new, next⟩
    · exact ⟨Nat.le_trans (tended.opened frame before).1 grown, (tended.opened frame before).2⟩
    · refine ⟨Nat.le_of_eq (new.trans next.symm), ?_⟩
      intro taken
      have early := tended.spare frame taken
      omega
  · intro frame opened
    exact effect.destination tended.bounded tended.destination opened

theorem edit (tended : Tended allowed host) (edit : Page.Edit)
    (fills : ∀ frame draft, edit = .appendChild frame draft → allowed host.session.state frame) :
    Tended allowed { host with session := host.session.editPage edit } := by
  have grown := Page.lastId_edit host.session.page edit
  refine ⟨tended.bounded.edit edit, ?_, ?_, ?_⟩
  · intro id taken
    exact Nat.le_trans (tended.spare id taken) grown
  · intro frame opened
    exact ⟨Nat.le_trans (tended.opened frame opened).1 grown, (tended.opened frame opened).2⟩
  · intro frame opened
    apply (tended.destination frame opened).edit (tended.opened frame opened).1
    rintro draft appended ⟨waits, denied⟩
    have may := fills frame draft appended
    rw [waits] at may
    exact denied may

theorem take (tended : Tended allowed host) :
    Tended allowed (host.withPage host.session.page.freshId.2
      (host.spare ++ [host.session.page.freshId.1])) := by
  have grown := Nat.le_succ host.session.page.lastId
  refine ⟨tended.bounded.raise grown, ?_, ?_, tended.destination⟩
  · intro id taken
    rcases List.mem_append.mp taken with early | new
    · exact Nat.le_trans (tended.spare id early) grown
    · exact Nat.le_of_eq (List.mem_singleton.mp new)
  · intro frame opened
    obtain ⟨given, apart⟩ := tended.opened frame opened
    refine ⟨Nat.le_trans given grown, ?_⟩
    intro taken
    rcases List.mem_append.mp taken with early | new
    · exact apart early
    · have next : frame = host.session.page.lastId + 1 := List.mem_singleton.mp new
      omega

theorem place (tended : Tended allowed host) {node : Node} {rest : List Nat}
    (own : node.id ∈ host.spare) (kept : rest ⊆ host.spare) :
    Tended allowed (host.withPage (host.session.page.place node) rest) := by
  refine ⟨?_, fun id taken => tended.spare id (kept taken), ?_, ?_⟩
  · intro id present
    change id ∈ (host.session.page.frames ++ [_]).map Node.id at present
    rw [List.map_append, List.mem_append] at present
    rcases present with old | new
    · exact tended.bounded id old
    · rw [List.map_singleton, List.mem_singleton, Node.id_withPosition] at new
      exact new ▸ tended.spare node.id own
  · intro frame opened
    obtain ⟨given, apart⟩ := tended.opened frame opened
    exact ⟨given, fun taken => apart (kept taken)⟩
  · intro frame opened
    apply (tended.destination frame opened).place
    rintro rfl
    exact (tended.opened node.id opened).2 own

theorem work (tended : Tended allowed host) (worked : Nat) {change : Node → Node} {rest : List Nat}
    (kept : rest ⊆ host.spare) (number : ∀ node, (change node).id = node.id)
    (sort : ∀ node, (change node).frame?.isSome = node.frame?.isSome)
    (fills : allowed host.session.state worked ∨
      ∀ node, node.children = [] → (change node).children = []) :
    Tended allowed (host.withPage (host.session.page.modify worked change) rest) := by
  refine ⟨tended.bounded.modify worked number, fun id taken => tended.spare id (kept taken), ?_, ?_⟩
  · intro frame opened
    obtain ⟨given, apart⟩ := tended.opened frame opened
    exact ⟨given, fun taken => apart (kept taken)⟩
  · intro frame opened
    apply (tended.destination frame opened).modify worked number
    rintro rfl node fits
    constructor
    · rw [sort]
      exact fits.container
    · rintro ⟨waits, denied⟩
      rcases fills with may | empty
      · rw [waits] at may
        exact absurd may denied
      · exact empty node (fits.children ⟨waits, denied⟩)

theorem turn (tended : Tended allowed host) (turn : Turn env allowed host after) :
    Tended allowed after := by
  cases turn with
  | call call => exact tended.call call
  | edit edit fills => exact tended.edit edit fills
  | take => exact tended.take
  | place node own kept => exact tended.place own kept
  | work frame kept number sort fills => exact tended.work frame kept number sort fills

theorem turns (tended : Tended allowed host) (turns : Turns env allowed host after) :
    Tended allowed after := by
  induction turns with
  | refl => exact tended
  | tail _ turn ih => exact ih.turn turn

end Tended

end Host

end Wireframe
