import Mathlib.Logic.Relation
import Wireframe.Catalog.Builtin
import Wireframe.Proofs.Page.Identity
import Wireframe.Proofs.Session.Effect
/-!
The numbers on the page of a session. Calls and edits of the page, in whatever order, give every
node a number of its own, also where a number is taken long before its node is made.
-/

namespace Wireframe

namespace Session

theorem State.release_ages (state : State) (page : Page) : page.Ages (state.release page) := by
  cases state with
  | awaiting frame => exact .remove frame
  | _ => exact .refl _ _

theorem Effect.ages {page after : Page} {state later : State} {request : Option Request}
    {result : Except SessionError (Option Nat)}
    (effect : Effect page state request result after later) : page.Ages after := by
  cases effect with
  | started prompt device name content =>
      have released := state.release_ages page
      exact released.trans (Page.Ages.add (.frame name content))
  | filled payload nodes waits found grown fresh =>
      exact .modify fresh _ (Node.ids_append nodes)
  | aborted payload error waits => exact .remove _
  | cancelled opened => exact .remove _
  | lost payload waits gone grown => exact .drop grown (List.Sublist.refl _)
  | _ => exact .refl _ _

end Session

/-- A session on a page that others change as well, and the numbers that they have taken for nodes
still to be made. -/
structure Host where
  session : Session
  spare : List Nat

namespace Host

variable (env : Environment)

def new (viewport : Viewport) : Host := ⟨.new env viewport, []⟩

def ids (host : Host) : List Nat := Node.idsOf host.session.page.frames

def withPage (host : Host) (page : Page) (spare : List Nat) : Host :=
  ⟨{ host.session with page }, spare⟩

/-- What may happen next: a call, an edit, a number that is taken for later, or a node with all that
is in it, made under numbers taken before and put on the page or into a frame. -/
inductive Step (host : Host) : Host → Prop
  | call (call : Session.Call) : Step host { host with session := (host.session.call env call).2 }
  | edit (edit : Page.Edit) : Step host { host with session := host.session.editPage edit }
  | take : Step host (host.withPage host.session.page.freshId.2
      (host.spare ++ [host.session.page.freshId.1]))
  | place (node : Node) {rest : List Nat} (own : host.spare.Perm (rest ++ node.ids)) :
      Step host (host.withPage (host.session.page.place node) rest)
  | append (frame : Nat) (node : Node) {rest : List Nat}
      (own : host.spare.Perm (rest ++ node.ids)) :
      Step host (host.withPage (host.session.page.modify frame (·.append [node])) rest)

abbrev Reaches : Host → Host → Prop := Relation.ReflTransGen (Step env)

def Sound (host : Host) : Prop := Given host.session.page.lastId (host.ids ++ host.spare)

/-- What becomes of the numbers: only those that were used or taken for later are, and new ones. -/
structure Ages (before after : Host) : Prop where
  used : Renewed before.session.page.lastId after.session.page.lastId (before.ids ++ before.spare)
    (after.ids ++ after.spare)
  spare : ∀ id ∈ after.spare, id ∈ before.spare ∨ before.session.page.lastId < id

variable {before between after host : Host}

theorem Ages.refl (host : Host) : Ages host host := ⟨.refl _ _, fun _ => Or.inl⟩

theorem Ages.trans (first : Ages before between) (second : Ages between after) :
    Ages before after where
  used := first.used.trans second.used
  spare := by
    intro id taken
    have grown := first.used.lastId_le
    rcases second.spare id taken with early | late
    · exact first.spare id early
    · exact Or.inr (Nat.lt_of_le_of_lt grown late)

theorem Ages.of_page {session : Session} (ages : host.session.page.Ages session.page) :
    Ages host { host with session } where
  used := ages.beside host.spare
  spare _ := Or.inl

theorem Ages.of_node {page : Page} {node : Node} {rest : List Nat}
    (own : host.spare.Perm (rest ++ node.ids)) (same : page.lastId = host.session.page.lastId)
    (grows : (Node.idsOf page.frames).Subperm (host.ids ++ node.ids)) :
    Ages host (host.withPage page rest) where
  used := by
    have moved : (host.ids ++ node.ids ++ rest).Perm (host.ids ++ host.spare) := by
      rw [List.append_assoc]
      exact (List.perm_append_comm.trans own.symm).append_left host.ids
    exact .drop (Nat.le_of_eq same.symm)
      ((grows.append (List.Subperm.refl rest)).trans moved.subperm)
  spare := by
    intro id left
    exact Or.inl (own.mem_iff.mpr (List.mem_append_left node.ids left))

theorem Step.ages (step : Step env before after) : Ages before after := by
  cases step with
  | call call =>
      obtain ⟨result, effect, _⟩ := before.session.call_effect env call
      exact .of_page effect.ages
  | edit edit => exact .of_page (.edit edit)
  | take =>
      constructor
      · refine ⟨[before.session.page.lastId + 1], Taken.next (.none _ _), ?_⟩
        rw [List.append_assoc]
        exact List.Subperm.refl _
      · intro id taken
        rcases List.mem_append.mp taken with early | new
        · exact Or.inl early
        · rw [List.mem_singleton.mp new]
          exact Or.inr (Nat.lt_succ_self _)
  | place node own =>
      refine Ages.of_node own ?_ ?_
      · rfl
      · rw [Page.idsOf_place]
        exact List.Subperm.refl _
  | append frame node own =>
      refine Ages.of_node own ?_ ?_
      · rfl
      · apply Page.idsOf_modifyFirst
        intro found
        have grown := Node.ids_append [node] found
        rwa [Node.idsOf_cons, Node.idsOf_nil, List.append_nil] at grown

theorem Reaches.ages (reaches : Reaches env before after) : Ages before after := by
  induction reaches with
  | refl => exact .refl before
  | tail _ step ages => exact ages.trans (step.ages env)

theorem Sound.new (viewport : Viewport) : Sound (new env viewport) where
  nodup := List.nodup_nil
  le := by simp [Host.new, ids, Session.new, Page.empty]

theorem Sound.page (sound : Sound host) : host.session.page.Distinct where
  nodup := sound.nodup.of_append_left
  le id present := sound.le id (List.mem_append_left host.spare present)

/-- A number that has left the page is not among those taken for later either, so it stays away. -/
theorem Sound.gone (sound : Sound before) (leaves : Ages before between)
    (goes : Ages between after) {id : Nat} (present : id ∈ before.ids) (absent : id ∉ between.ids) :
    id ∉ after.ids := by
  have given := sound.page.le id present
  have apart : id ∉ before.spare := List.disjoint_of_nodup_append sound.nodup present
  have unused : id ∉ between.ids ++ between.spare := by
    intro used
    rcases List.mem_append.mp used with back | taken
    · exact absent back
    · rcases leaves.spare id taken with early | late
      · exact apart early
      · exact absurd given (Nat.not_le_of_lt late)
  intro back
  have grown := leaves.used.lastId_le
  rcases goes.used.mem (List.mem_append_left after.spare back) with used | late
  · exact unused used
  · exact absurd (Nat.le_trans given grown) (Nat.not_le_of_lt late)

/-- Whatever calls are made and whatever is done to the page, all nodes on it have numbers of their
own, at any depth, and none above the last one given. A number that has left the page never comes
back, and one on the page leads to one frame, as it does to one child within a frame. -/
theorem numbers_unique (viewport : Viewport) (reached : Reaches env (new env viewport) host) :
    host.ids.Nodup ∧ (∀ id ∈ host.ids, id ≤ host.session.page.lastId) ∧
    (∀ later last, Reaches env host later → Reaches env later last →
      ∀ id ∈ host.ids, id ∉ later.ids → id ∉ last.ids) ∧
    (∀ frame ∈ host.session.page.frames, ∃ front back,
      host.session.page.Leads frame front back) := by
  have sound : Sound host := (reached.ages env).used.given (Sound.new env viewport)
  refine ⟨sound.page.nodup, sound.page.le, ?_, fun frame present => sound.page.leads present⟩
  intro later last leaves goes id present absent
  exact sound.gone (leaves.ages env) (goes.ages env) present absent

/-- A number that is taken before a design is rendered and used for a frame after that. -/
theorem numbers_unique_early :
    let env : Environment := ⟨.standard, .builtin, Font.ofFaces (Font.family "Inter"), .library⟩
    let start := new env .origin
    let took := start.withPage start.session.page.freshId.2 [1]
    let opened := { took with session := (took.session.call env (.start "a form" "mobile")).2 }
    let design : Json := .array [.object [("component", .string "Text"), ("props", .object [])]]
    let filled := { opened with session := (opened.session.call env (.render (.tree design))).2 }
    let made := Draft.frame "Frame" (Frame.plain .zero)
    let host := filled.withPage (filled.session.page.place (made.node 1)) []
    Reaches env start host ∧ host.ids = [3, 2, 1] ∧ host.ids.Nodup := by
  intro env start took opened design filled made host
  have taken : Reaches env start took := Relation.ReflTransGen.refl.tail .take
  have called : Reaches env start filled := (taken.tail (.call _)).tail (.call _)
  have placed : Reaches env start host := called.tail (.place (made.node 1) (List.Perm.refl [1]))
  exact ⟨placed, by decide +kernel, (numbers_unique env .origin placed).1⟩
end Host

end Wireframe
