import Wireframe.Session.Basic

namespace Wireframe

def Refusal.leaves (state : Session.State) : Refusal → Session.State
  | .destinationRemoved _ => .idle
  | .noActiveDestination | .alreadyRendered => state

theorem Renderer.error_of_tree {env : Environment} {value : Json} {renderer after : Renderer}
    {error : InputError} (made : renderer.tree env value = (.error error, after)) :
    error = .notAList value.typeName := by
  unfold Renderer.tree at made
  cases built : Render.ofJson? env value with
  | none =>
      rw [built] at made
      exact (Except.error.inj (congrArg Prod.fst made)).symm
  | some build =>
      rw [built] at made
      cases congrArg Prod.fst made

namespace Session

/-- Why there is no destination to render into. -/
inductive Refuses (page : Page) : State → Refusal → Prop
  | closed : Refuses page .idle .noActiveDestination
  | full (frame : Nat) : Refuses page (.populated frame) .alreadyRendered
  | lost {frame : Nat} (gone : page.frame? frame = none) :
      Refuses page (.awaiting frame) (.destinationRemoved frame)

def refusing (refusal : Refusal) (session : Session) : Session :=
  { session with state := refusal.leaves session.state }.refuse refusal

def draft (env : Environment) (prompt device : String) : Draft :=
  .frame (frameName prompt (env.config.device device))
    (destinationFrame env.config.frame (env.config.device device))

theorem start_adds (env : Environment) (session : Session) (prompt device : String) :
    session.start env prompt device =
      let page := session.state.release session.page
      (page.lastId + 1,
        { session with
          page := (page.add (draft env prompt device)).2
          state := .awaiting (page.lastId + 1) }) := rfl

section

variable (env : Environment) (session : Session)

theorem destination_cases :
    (∃ refusal, Refuses session.page session.state refusal ∧
      session.destination = (.error refusal, session.refusing refusal)) ∨
    ∃ frame node, session.state = .awaiting frame ∧ session.page.frame? frame = some node ∧
      session.destination = (.ok frame, session) := by
  obtain ⟨page, state, notifications⟩ := session
  cases state with
  | idle => exact Or.inl ⟨_, .closed, rfl⟩
  | populated frame => exact Or.inl ⟨_, .full frame, rfl⟩
  | awaiting frame =>
      cases found : page.frame? frame with
      | none =>
          refine Or.inl ⟨_, .lost found, ?_⟩
          simp only [destination, found]
          rfl
      | some node =>
          refine Or.inr ⟨frame, node, rfl, found, ?_⟩
          simp only [destination, found]

/-- What a render can come to: a refusal, an unusable input, for which the destination is given up,
or nodes that are to be put into it. -/
theorem render_cases (payload : Payload) :
    (∃ refusal, Refuses session.page session.state refusal ∧
      session.render env payload = (.error (.refused refusal), session.refusing refusal)) ∨
    (∃ frame error, session.state = .awaiting frame ∧ error ≠ .missing ∧
      (∀ values, payload.toTree ≠ .ok (.array values)) ∧
      session.render env payload = (.error (.input error), session.abort frame error)) ∨
    ∃ frame node value nodes renderer, session.state = .awaiting frame ∧
      session.page.frame? frame = some node ∧ payload.toTree = .ok value ∧
      (Renderer.fresh session.page.lastId).tree env value = (.ok nodes, renderer) ∧
      session.render env payload = session.attach frame nodes renderer := by
  unfold render
  rcases session.destination_cases with
    ⟨refusal, refuses, refused⟩ | ⟨frame, node, waits, found, ready⟩
  · rw [refused]
    exact Or.inl ⟨refusal, refuses, rfl⟩
  · rw [ready]
    right
    cases parsed : payload.toTree with
    | error fault => exact Or.inl ⟨frame, .unreadable fault, waits, nofun, nofun, rfl⟩
    | ok value =>
        cases made : (Renderer.fresh session.page.lastId).tree env value with
        | mk result renderer =>
            cases result with
            | error error =>
                refine Or.inl ⟨frame, error, waits, ?_, ?_, by simp only [made]⟩
                · rw [Renderer.error_of_tree made]
                  nofun
                · rintro values listed
                  cases listed
                  cases congrArg Prod.fst made
            | ok nodes =>
                refine Or.inr ⟨frame, node, value, nodes, renderer, waits, found, rfl, made, ?_⟩
                simp only [made]

/-- The nodes of a design go into the destination, unless that is no container. Rendering takes
numbers in both cases, but it finds the frames as they were. -/
theorem attach_cases (frame : Nat) (nodes : List Node) (renderer : Renderer) :
    let page : Page := { session.page with lastId := renderer.lastId }
    ((session.page.frame? frame).bind Node.frame? = none ∧
      session.attach frame nodes renderer =
        (.error (.refused (.destinationRemoved frame)),
          { session with page }.refusing (.destinationRemoved frame))) ∨
    ∃ header content children,
      session.page.frame? frame = some (.container header content children) ∧
      session.attach frame nodes renderer =
        (.ok ⟨frame, nodes.length, renderer.log⟩,
          ⟨page.modify frame (·.append nodes), .populated frame,
            session.notifications ++ (renderer.log.classes.map (classNotice renderer.log) ++
              [rendered])⟩) := by
  intro page
  have same : page.frame? frame = session.page.frame? frame := rfl
  unfold attach
  cases found : session.page.frame? frame with
  | none =>
      refine Or.inl ⟨rfl, ?_⟩
      simp only [page, same, found]
      rfl
  | some node =>
      cases node with
      | leaf header content =>
          refine Or.inl ⟨rfl, ?_⟩
          simp only [page, same, found]
          rfl
      | container header content children =>
          refine Or.inr ⟨header, content, children, rfl, ?_⟩
          simp only [page, same, found]
          rfl

end

theorem render_fills {env : Environment} {session : Session} {frame : Nat} {header : Node.Header}
    {content : Frame} {children nodes : List Node} {payload : Payload} {values : List Json}
    {renderer : Renderer} (waits : session.state = .awaiting frame)
    (found : session.page.frame? frame = some (.container header content children))
    (parsed : payload.toTree = .ok (.array values))
    (made : (Renderer.fresh session.page.lastId).tree env (.array values) = (.ok nodes, renderer)) :
    let page : Page := { session.page with lastId := renderer.lastId }
    session.render env payload =
      (.ok ⟨frame, nodes.length, renderer.log⟩,
        ⟨page.modify frame (·.append nodes), .populated frame,
          session.notifications ++
            (renderer.log.classes.map (classNotice renderer.log) ++ [rendered])⟩) := by
  intro page
  rcases session.render_cases env payload with
    ⟨refusal, refuses, _⟩ | ⟨_, _, _, _, unlisted, _⟩ |
      ⟨other, _, value, again, after, still, _, same, remade, attached⟩
  · rw [waits] at refuses
    cases refuses with
    | lost gone => cases gone.symm.trans found
  · exact absurd parsed (unlisted values)
  · cases waits.symm.trans still
    cases parsed.symm.trans same
    cases made.symm.trans remade
    rcases session.attach_cases frame nodes renderer with ⟨bare, _⟩ | ⟨_, _, _, _, filled⟩
    · rw [found] at bare
      cases bare
    · rw [attached, filled]

theorem render_succeeds (env : Environment) {session : Session} {frame : Nat} {node : Node}
    {payload : Payload} {values : List Json} (waits : session.state = .awaiting frame)
    (found : session.page.frame? frame = some node) (container : node.frame?.isSome)
    (parsed : payload.toTree = .ok (.array values)) :
    ∃ report, (session.render env payload).1 = .ok report := by
  cases node with
  | leaf header content => cases container
  | container header content children =>
      have made : (Renderer.fresh session.page.lastId).tree env (.array values) = (.ok _, _) := rfl
      exact ⟨_, congrArg Prod.fst (render_fills waits found parsed made)⟩

end Session

end Wireframe
