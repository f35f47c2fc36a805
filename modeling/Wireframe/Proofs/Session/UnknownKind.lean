import Wireframe.Catalog.Builtin
import Wireframe.Proofs.Render.Shortage
import Wireframe.Proofs.Session.Notice

namespace Wireframe

def Json.IsForeign (value : Json) : Prop :=
  ∃ entry, Entry.ofJson? value = some entry ∧ Kind.ofTag? entry.tag = none

def Entry.tags (values : List Json) : List String :=
  values.filterMap fun value => (ofJson? value).map Entry.tag

theorem Entry.tags_cons {value : Json} {entry : Entry} (valid : ofJson? value = some entry)
    (rest : List Json) : tags (value :: rest) = entry.tag :: tags rest := by
  simp [tags, valid]

/-- The failure of an entry of an unknown kind: there is no face for its text. -/
def Environment.unset (env : Environment) (tag : String) : List BuildFailure :=
  match Font.resolve env.fonts env.config.fontFamilies .bold with
  | .ok _ => []
  | .error reason => [⟨tag, .font reason⟩]

def Environment.foreign (env : Environment) (tags : List String) : Diagnostics :=
  { Diagnostics.empty with unknownKinds := tags, failures := tags.flatMap env.unset }

namespace Render

variable {env : Environment} {depth : Nat} {read : Entry}

theorem entry_unknown (below : Build (List Node)) (shallow : depth ≤ env.config.maxDepth)
    (foreign : Kind.ofTag? read.tag = none) (lastId : Nat) :
    (entry env depth read below lastId).log = env.foreign [read.tag] := by
  have same : attempt env depth read below = recorded env below (.unknown read.tag) := by
    rw [attempt, if_neg (Nat.not_lt.mpr shallow), Entry.reads_unknown foreign]
  let spec : TextSpec := ⟨"[UNKNOWN: " ++ read.tag ++ "]", 16, .bold, .left⟩
  unfold entry Environment.foreign
  rw [Build.bind_apply, same, recorded_unknown, component, Environment.notice,
    List.flatMap_singleton, Environment.unset]
  rcases env.style_cases .bold with ⟨font, _, _, resolved⟩ | ⟨reason, _, _, failed⟩
  · have text := env.text_set spec resolved env.palette.error lastId
    rw [Attempt.bind_ok _ (congrArg Built.value text), text, resolved]
    rfl
  · have text := env.text_unset spec failed env.palette.error lastId
    rw [Attempt.bind_error _ (congrArg Built.value text), text, failed]
    dsimp only
    rw [Build.bind_apply]
    dsimp only
    rw [errorText_log]
    rfl

end Render

variable {env : Environment}

theorem Environment.foreign_append (env : Environment) (front back : List String) :
    env.foreign (front ++ back) = env.foreign front ++ env.foreign back := by
  unfold foreign
  rw [List.flatMap_append]
  rfl

theorem Environment.unset_eq_nil_iff (env : Environment) (tag : String) :
    env.unset tag = [] ↔ (env.face? .bold).isSome := by
  unfold unset
  rcases env.style_cases .bold with ⟨font, first, _, resolved⟩ | ⟨reason, missing, _, failed⟩
  · simp [resolved, first]
  · simp [failed, missing]

theorem Visit.unknown_unmade {visit : Visit} {tag : String}
    (unknown : visit.unknownTag? env = some tag) :
    visit.isMade env = false ∧ (visit.fault? env).toList = env.unset tag := by
  refine ⟨by simp [isMade, unknown], ?_⟩
  obtain ⟨depth, _ | entry⟩ := visit
  · cases unknown
  · simp only [unknownTag?, Option.bind_eq_bind, Option.bind_some, Option.ite_none_right_eq_some]
      at unknown
    obtain ⟨⟨shallow, foreign⟩, same⟩ := unknown
    cases same
    have fault := Entry.fault?_of_sound (entry.error?_unknown shallow foreign)
      (Entry.reads_unknown foreign)
    unfold Environment.unset
    rcases env.style_cases .bold with ⟨font, _, set, resolved⟩ | ⟨reason, _, unset, failed⟩
    · simp [fault?, fault, Component.fontError?, Component.styles, set, resolved]
    · simp [fault?, fault, Component.fontError?, Component.styles, unset, failed]

namespace Renderer

/-- What an entry of an unknown kind adds to the record. -/
theorem entry_unknown {depth : Nat} {value : Json} {entry : Entry}
    (valid : Entry.ofJson? value = some entry) (shallow : depth ≤ env.config.maxDepth)
    (foreign : Kind.ofTag? entry.tag = none) (renderer : Renderer) :
    (renderer.entry env depth value).2.log = renderer.log ++ env.foreign [entry.tag] := by
  rw [Renderer.entry, Tree.ofJson_entry valid, run, Render.tree]
  exact congrArg (renderer.log ++ ·) (Render.entry_unknown _ shallow foreign renderer.lastId)

/-- By induction on the entries: a list of unknown kinds adds their tags and their failures alone.
-/
theorem entries_unknown {values : List Json} (foreign : ∀ value ∈ values, value.IsForeign)
    (renderer : Renderer) :
    (renderer.entries env 0 values).2.log = renderer.log ++ env.foreign (Entry.tags values) := by
  induction values generalizing renderer with
  | nil => rfl
  | cons value rest ih =>
      obtain ⟨entry, valid, unknown⟩ := foreign value List.mem_cons_self
      have later := ih fun other member => foreign other (List.mem_cons_of_mem value member)
      rw [entries_cons, later, entry_unknown valid (Nat.zero_le _) unknown,
        Diagnostics.append_assoc, ← env.foreign_append, List.singleton_append,
        Entry.tags_cons valid]

end Renderer

namespace Session

theorem handle_unknown {session : Session} {frame : Nat} {header : Node.Header} {content : Frame}
    {children : List Node} {payload : Payload} {values : List Json}
    (waits : session.state = .awaiting frame)
    (found : session.page.frame? frame = some (.container header content children))
    (parsed : payload.toTree = .ok (.array values)) (foreign : ∀ value ∈ values, value.IsForeign) :
    ∃ count, (session.handle env (.renderDesign (some payload))).1 =
      ⟨.generationComplete count, renderNotices (env.foreign (Entry.tags values))⟩ := by
  let renderer := Renderer.fresh session.page.lastId
  have noted : (renderer.entries env 0 values).2.log = env.foreign (Entry.tags values) :=
    Renderer.entries_unknown foreign renderer
  rw [handle_fills waits found parsed (renderer.tree_array env values), noted]
  exact ⟨_, rfl⟩

/-- An entry of an unknown kind adds its tag to the record once, wherever it stands, and nothing is
built for it. It adds a failure if there is no face for its bold text and none otherwise. A request
with such entries alone therefore tells of no failure when there is that face, and of one when there
is not. -/
theorem unknown_kinds_noted (env : Environment) :
    (∀ depth value entry renderer, Entry.ofJson? value = some entry →
      depth ≤ env.config.maxDepth → Kind.ofTag? entry.tag = none →
      (Renderer.entry env depth value renderer).2.log =
        renderer.log ++ env.foreign [entry.tag]) ∧
    (∀ values renderer,
      let visits := Visit.all env.config.maxDepth 0 values
      let log := (Renderer.tree env (.array values) renderer).2.log
      log.unknownKinds = renderer.log.unknownKinds ++ visits.filterMap (Visit.unknownTag? env) ∧
      log.failures = renderer.log.failures ++ visits.filterMap (Visit.fault? env) ∧
      log.built = renderer.log.built + visits.countP (Visit.isMade env) ∧
      ∀ visit ∈ visits, ∀ tag, visit.unknownTag? env = some tag →
        visit.isMade env = false ∧ (visit.fault? env).toList = env.unset tag) ∧
    (∀ (session : Session) frame header content children payload values,
      session.state = .awaiting frame →
      session.page.frame? frame = some (.container header content children) →
      payload.toTree = .ok (.array values) → (∀ value ∈ values, value.IsForeign) →
      let answered := (session.handle env (.renderDesign (some payload))).1
      (∃ count, answered.outcome = .generationComplete count) ∧
      ((env.face? .bold).isSome → answered.notifications = [rendered]) ∧
      (env.face? .bold = none → values ≠ [] →
        answered.notifications =
          [classNotice (env.foreign (Entry.tags values)) .nodeBuild, rendered])) ∧
    ∀ tag, env.unset tag = [] ↔ (env.face? .bold).isSome := by
  refine ⟨?_, ?_, ?_, env.unset_eq_nil_iff⟩
  · intro depth value entry renderer valid shallow foreign
    exact Renderer.entry_unknown valid shallow foreign renderer
  · intro values renderer visits log
    obtain ⟨forest, after, own, made, noted, rendered⟩ := renderer.tree_renders env values
    have whole : log = renderer.log ++ own := (congrArg (·.2.log) made).trans noted
    rw [whole, Diagnostics.unknownKinds_append, Diagnostics.failures_append,
      Diagnostics.built_append, rendered.notes.unknownKinds, rendered.notes.failures,
      rendered.notes.built]
    exact ⟨rfl, rfl, rfl, fun visit _ tag unknown => Visit.unknown_unmade unknown⟩
  · intro session frame header content children payload values waits found parsed foreign answered
    obtain ⟨count, same⟩ : ∃ count, answered = _ := handle_unknown waits found parsed foreign
    have told : answered.notifications = renderNotices (env.foreign (Entry.tags values)) :=
      congrArg Response.notifications same
    have drawn : (env.foreign (Entry.tags values)).vectorFailures = [] := rfl
    refine ⟨⟨count, congrArg Response.outcome same⟩, ?_, ?_⟩
    · intro bold
      have silent : (env.foreign (Entry.tags values)).failures = [] :=
        List.flatMap_eq_nil_iff.mpr fun tag _ => (env.unset_eq_nil_iff tag).mpr bold
      rw [told, renderNotices, if_pos silent, if_pos drawn]
      rfl
    · intro missing entries
      have failed : (env.foreign (Entry.tags values)).failures ≠ [] := by
        intro none
        obtain ⟨value, rest, rfl⟩ := List.exists_cons_of_ne_nil entries
        obtain ⟨entry, valid, _⟩ := foreign value List.mem_cons_self
        rw [Entry.tags_cons valid] at none
        have first := List.flatMap_eq_nil_iff.mp none entry.tag List.mem_cons_self
        have bold := (env.unset_eq_nil_iff entry.tag).mp first
        rw [missing] at bold
        cases bold
      rw [told, renderNotices, if_neg failed, if_pos drawn]
      rfl

/-- A carousel three levels down and by itself, with and without faces. -/
theorem unknown_kinds_noted_carousel :
    let env (fonts : FontProvider) : Environment := ⟨.standard, .builtin, fonts, .library⟩
    let sighted := env (Font.ofFaces (Font.family "Inter"))
    let bare := env fun _ => false
    let carousel : Json := .object [("component", .string "Carousel"), ("props", .object [])]
    let request : Request := .renderDesign (some (.tree (.array [carousel])))
    let opened (env : Environment) := ((new env .origin).start env "a form" "mobile").2
    (Renderer.entry sighted 3 carousel (.fresh 7)).2.log = .unknownKind "Carousel" ∧
      ((opened sighted).handle sighted request).1.notifications = [rendered] ∧
      ((opened bare).handle bare request).1.notifications =
        [classNotice (bare.foreign ["Carousel"]) .nodeBuild, rendered] := by
  intro env sighted bare carousel request opened
  let entry : Entry := ⟨"Carousel", []⟩
  have valid : Entry.ofJson? carousel = some entry := rfl
  have unknown : Kind.ofTag? entry.tag = none := by decide
  have foreign : ∀ value ∈ [carousel], value.IsForeign := by
    intro value member
    rw [List.mem_singleton.mp member]
    exact ⟨entry, valid, unknown⟩
  have answered (env : Environment) :=
    (unknown_kinds_noted env).2.2.1 (opened env) 1 _ _ [] (.tree (.array [carousel])) [carousel] rfl
      rfl rfl foreign
  have alone :=
    (unknown_kinds_noted sighted).1 3 carousel entry (.fresh 7) valid (by decide) unknown
  refine ⟨alone.trans ?_, (answered sighted).2.1 (by decide), ?_⟩
  · decide +kernel
  · exact (answered bare).2.2 (by decide) nofun

/-- Without a face an entry of an unknown kind is a failure as well, and the user is told of it. -/
theorem unknown_kind_fails :
    let env : Environment := ⟨.standard, .builtin, fun _ => false, .library⟩
    let carousel : Json := .object [("component", .string "Carousel"), ("props", .object [])]
    let log := ((Renderer.fresh 0).tree env (.array [carousel])).2.log
    let opened := ((new env .origin).start env "a form" "mobile").2
    carousel.IsForeign ∧ log.unknownKinds = ["Carousel"] ∧
      log.failures = [⟨"Carousel", .font ⟨"Inter Bold"⟩⟩] ∧
      (opened.handle env (.renderDesign (some (.tree (.array [carousel]))))).1.notifications =
        ["Render error on Carousel. Check console.", rendered] := by
  intro env carousel log opened
  refine ⟨⟨⟨"Carousel", []⟩, rfl, by decide⟩, ?_, ?_, ?_⟩
  · decide +kernel
  · decide +kernel
  · decide +kernel

end Session

end Wireframe
