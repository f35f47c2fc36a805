import Wireframe.Proofs.Render.Correspondence
import Wireframe.Proofs.Render.Typesetting

namespace Wireframe

open Assembly (nodes)

def Component.fontError? (env : Environment) (component : Component) : Option BuildError :=
  match env.faces component.styles with
  | .ok _ => none
  | .error reason => some (.font reason)

theorem Component.styles_nests {component : Component}
    (nests : component.kind?.any Kind.nests = true) : component.styles = [] := by
  cases component with
  | row props => rfl
  | column props => rfl
  | card props => rfl
  | _ => cases nests

namespace Entry

variable {env : Environment} {depth : Nat} {entry : Entry}

/-- Why an entry is not built: something is wrong with it, or one of its texts has no face. -/
def fault? (env : Environment) (depth : Nat) (entry : Entry) : Option BuildError :=
  (entry.error? env depth).or
    ((Component.ofEntry entry).toOption.bind (Component.fontError? env))

/-- The styles of the texts that an entry leaves: those of its component, or that of the red text in
its place. -/
def styles (env : Environment) (depth : Nat) (entry : Entry) : List FontStyle :=
  match entry.fault? env depth with
  | some _ => [.regular]
  | none => (Component.ofEntry entry).toOption.elim [] Component.styles

theorem fault?_of_error {error : BuildError} (wrong : entry.error? env depth = some error) :
    entry.fault? env depth = some error := by
  rw [fault?, wrong, Option.some_or]

theorem fault?_of_sound {component : Component} (sound : entry.error? env depth = none)
    (reads : Component.ofEntry entry = .ok component) :
    entry.fault? env depth = component.fontError? env := by
  rw [fault?, sound, reads, Option.none_or]
  rfl

end Entry

namespace Visit

variable (env : Environment) (visit : Visit)

def fault? : Option BuildFailure := do
  let entry ← visit.entry
  let error ← entry.fault? env visit.depth
  some ⟨entry.tag, error⟩

def isMade : Bool :=
  !visit.isSkipped && (visit.unknownTag? env).isNone && (visit.fault? env).isNone

def styles : List FontStyle := visit.entry.elim [] (Entry.styles env visit.depth)

def faces : List FontName := (visit.styles env).filterMap env.face?

def announced : Diagnostics := (visit.unknownTag? env).elim .empty .unknownKind

end Visit

def Render.inside (env : Environment) (depth : Nat) (entry : Entry) : Build (List Node) :=
  kept (trees env (depth + 1) (Tree.ofList entry.children))

def Visit.Yields (env : Environment) (visit : Visit) (node : Node) : Prop :=
  ∃ entry component lastId made, visit.entry = some entry ∧
    Component.ofEntry entry = .ok component ∧
    ((Render.component env (Render.inside env visit.depth entry) component).run lastId).value =
      .ok made ∧
    node = Render.named entry.tag made

/-- A record notes these visits: what was passed over, unknown tags, faults, and what was made. A
tag is noted also when its text has a fault. -/
structure Notes (env : Environment) (visits : List Visit) (log : Diagnostics) : Prop where
  skipped : log.skipped = visits.countP Visit.isSkipped
  unknownKinds : log.unknownKinds = visits.filterMap (Visit.unknownTag? env)
  failures : log.failures = visits.filterMap (Visit.fault? env)
  built : log.built = visits.countP (Visit.isMade env)

namespace Notes

variable {env : Environment} {depth : Nat} {entry : Entry} {visits : List Visit}

theorem quiet {log : Diagnostics} (quiet : log.Quiet) : Notes env [] log :=
  ⟨quiet.skipped, quiet.unknownKinds, quiet.failures, quiet.built⟩

theorem append {front back : List Visit} {first second : Diagnostics}
    (before : Notes env front first) (after : Notes env back second) :
    Notes env (front ++ back) (first ++ second) := by
  constructor
  · rw [Diagnostics.skipped_append, before.skipped, after.skipped, List.countP_append]
  · rw [Diagnostics.unknownKinds_append, before.unknownKinds, after.unknownKinds,
      List.filterMap_append]
  · rw [Diagnostics.failures_append, before.failures, after.failures, List.filterMap_append]
  · rw [Diagnostics.built_append, before.built, after.built, List.countP_append]

theorem append_quiet {first second : Diagnostics} (before : Notes env visits first)
    (after : second.Quiet) : Notes env visits (first ++ second) := by
  have whole := before.append (quiet after)
  rwa [List.append_nil] at whole

theorem quiet_append {first second : Diagnostics} (before : first.Quiet)
    (after : Notes env visits second) : Notes env visits (first ++ second) :=
  (quiet before).append after

theorem invalid (depth : Nat) : Notes env [⟨depth, none⟩] .oneSkipped := ⟨rfl, rfl, rfl, rfl⟩

theorem fault {error : BuildError} (faulty : entry.fault? env depth = some error)
    {log : Diagnostics} (quiet : log.Quiet) :
    Notes env [⟨depth, some entry⟩]
      (Visit.announced env ⟨depth, some entry⟩ ++ log ++ .failure entry.tag error) := by
  have sort : Visit.fault? env ⟨depth, some entry⟩ = some ⟨entry.tag, error⟩ := by
    simp [Visit.fault?, faulty]
  constructor
  all_goals
    cases tag : Visit.unknownTag? env ⟨depth, some entry⟩ with
    | none => simp [Visit.announced, tag, sort, Visit.isMade, Visit.isSkipped, quiet.skipped,
        quiet.unknownKinds, quiet.failures, quiet.built, Diagnostics.failure, Diagnostics.empty]
    | some tag => simp [Visit.announced, tag, sort, Visit.isMade, Visit.isSkipped, quiet.skipped,
        quiet.unknownKinds, quiet.failures, quiet.built, Diagnostics.failure,
        Diagnostics.unknownKind, Diagnostics.empty]

theorem unknown (shallow : depth ≤ env.config.maxDepth) (foreign : Kind.ofTag? entry.tag = none)
    (sound : entry.fault? env depth = none) :
    Notes env [⟨depth, some entry⟩] (.unknownKind entry.tag) := by
  have tag : Visit.unknownTag? env ⟨depth, some entry⟩ = some entry.tag := by
    simp [Visit.unknownTag?, shallow, foreign]
  have noFault : Visit.fault? env ⟨depth, some entry⟩ = none := by
    simp [Visit.fault?, sound]
  constructor
  · rfl
  · simp [Diagnostics.unknownKind, tag]
  · simp [Diagnostics.unknownKind, Diagnostics.empty, noFault]
  · simp [Diagnostics.unknownKind, Diagnostics.empty, Visit.isMade, tag]

/-- A container is noted after what lies below it though it is visited before. -/
theorem made {kind : Kind} {log : Diagnostics} (known : Kind.ofTag? entry.tag = some kind)
    (sound : entry.fault? env depth = none) (below : Notes env visits log) :
    Notes env (⟨depth, some entry⟩ :: visits) (log ++ .oneBuilt) := by
  have noTag : Visit.unknownTag? env ⟨depth, some entry⟩ = none := by
    simp [Visit.unknownTag?, known]
  have noFault : Visit.fault? env ⟨depth, some entry⟩ = none := by
    simp [Visit.fault?, sound]
  constructor
  · simp [Diagnostics.oneBuilt, Diagnostics.empty, Visit.isSkipped, below.skipped]
  · simp [Diagnostics.oneBuilt, Diagnostics.empty, noTag, below.unknownKinds]
  · simp [Diagnostics.oneBuilt, Diagnostics.empty, noFault, below.failures]
  · simp [Diagnostics.oneBuilt, Visit.isMade, Visit.isSkipped, noTag, noFault, below.built]

end Notes

/-- What was built on these visits: their notes, texts in their faces, and a node for each that was
made. -/
structure Rendered (env : Environment) (visits : List Visit) (log : Diagnostics)
    (forest : List Node) : Prop where
  notes : Notes env visits log
  faces : Node.facesOf forest = visits.flatMap (Visit.faces env)
  present : ∀ visit ∈ visits, visit.isMade env = true →
    ∃ node ∈ Node.allOf forest, visit.Yields env node

def Build.Renders {α : Type} [Assembly α] (env : Environment) (visits : List Visit)
    (build : Build α) : Prop :=
  ∀ lastId, Rendered env visits (build lastId).log (nodes (build lastId).value)

theorem Rendered.append {env : Environment} {front back : List Visit} {first second : Diagnostics}
    {left right : List Node} (before : Rendered env front first left)
    (after : Rendered env back second right) :
    Rendered env (front ++ back) (first ++ second) (left ++ right) := by
  refine ⟨before.notes.append after.notes, ?_, ?_⟩
  · rw [Node.facesOf_append, List.flatMap_append, before.faces, after.faces]
  · intro visit visited made
    rw [Node.allOf_append]
    rcases List.mem_append.mp visited with early | late
    · obtain ⟨node, member, yields⟩ := before.present visit early made
      exact ⟨node, List.mem_append_left _ member, yields⟩
    · obtain ⟨node, member, yields⟩ := after.present visit late made
      exact ⟨node, List.mem_append_right _ member, yields⟩

namespace Render

variable {env : Environment} {depth : Nat} {visits : List Visit} {below : Build (List Node)}
variable {read : Entry} {component : Component} {fonts : List FontName} {reason : Font.Unavailable}

@[simp] theorem faces_named (tag : String) (node : Node) : (named tag node).faces = node.faces := by
  unfold named
  split
  · exact Node.faces_rename tag node
  · rfl

@[simp] theorem children_named (tag : String) (node : Node) :
    (named tag node).children = node.children := by
  unfold named
  split
  · cases node <;> rfl
  · rfl

theorem errorText_log (tag : String) (lastId : Nat) : (errorText env tag lastId).log = .empty := by
  let spec : TextSpec := ⟨"[ERROR: " ++ tag ++ "]", 12, .regular, .left⟩
  rw [errorText, Build.bind_apply]
  dsimp only [Environment.notice]
  rcases env.text_cases spec env.palette.error lastId with ⟨font, made⟩ | ⟨_, reason, failed⟩
  · rw [made]
    rfl
  · rw [failed]
    rfl

theorem errorText_shows (tag : String) :
    Build.Shows (env.face? .regular).toList (errorText env tag) := by
  intro lastId
  refine ⟨by rw [errorText_log]; exact .empty, ?_⟩
  obtain ⟨_, ended⟩ :=
    env.text_sets ⟨"[ERROR: " ++ tag ++ "]", 12, .regular, .left⟩ env.palette.error lastId
  rw [errorText, Build.bind_apply]
  dsimp only [Environment.notice]
  rcases env.style_cases .regular with ⟨font, first, set, _⟩ | ⟨reason, missing, unset, _⟩
  · rw [set] at ended
    obtain ⟨node, made, shown⟩ := ended
    rw [made, first]
    simpa [Pure.pure, Build.pure] using shown
  · rw [unset] at ended
    rw [show _ = Except.error _ from ended, missing]
    rfl

theorem component_made (whole : component.error? env.icons = none)
    (set : env.faces component.styles = .ok fonts) (inside : below.Renders env visits)
    (lastId : Nat) :
    let opened := if component.kind?.any Kind.nests then visits else []
    let made := (Render.component env below component).run lastId
    ∃ node, made.value = .ok node ∧ Notes env opened made.log ∧
      node.faces = fonts ++ opened.flatMap (Visit.faces env) ∧
      ∀ visit ∈ opened, visit.isMade env = true →
        ∃ inner ∈ Node.allOf node.children, visit.Yields env inner := by
  intro opened made
  cases nests : component.kind?.any Kind.nests with
  | true =>
      have filled : opened = visits := if_pos nests
      have noted : below.Leaves (Notes env visits) := fun lastId => (inside lastId).notes
      obtain ⟨header, frame, value, _⟩ := component_fills env below nests lastId
      rw [Component.styles_nests nests, env.faces_nil] at set
      cases set
      rw [filled]
      refine ⟨_, value, (component_nests below noted nests lastId).2, ?_, ?_⟩
      · rw [Node.faces_container]
        exact (inside lastId).faces
      · exact (inside lastId).present
  | false =>
      have alone : opened = [] := if_neg (by simp [nests])
      obtain ⟨quiet, ended⟩ := component_sets below whole nests lastId
      rw [set] at ended
      obtain ⟨node, value, shown⟩ := ended
      rw [alone]
      refine ⟨node, value, .quiet quiet, ?_, fun _ none => absurd none List.not_mem_nil⟩
      simpa using shown

theorem component_unset (whole : component.error? env.icons = none)
    (unset : env.faces component.styles = .error reason) (lastId : Nat) :
    let made := (Render.component env below component).run lastId
    made.value = .error (.font reason) ∧ made.log.Quiet := by
  cases nests : component.kind?.any Kind.nests with
  | true =>
      rw [Component.styles_nests nests, env.faces_nil] at unset
      cases unset
  | false =>
      obtain ⟨quiet, ended⟩ := component_sets below whole nests lastId
      rw [unset] at ended
      exact ⟨ended, quiet⟩

theorem announced_known {kind : Kind} (known : Kind.ofTag? read.tag = some kind) :
    Visit.announced env ⟨depth, some read⟩ = .empty := by
  simp [Visit.announced, Visit.unknownTag?, known]

theorem announced_unknown (shallow : depth ≤ env.config.maxDepth)
    (foreign : Kind.ofTag? read.tag = none) :
    Visit.announced env ⟨depth, some read⟩ = .unknownKind read.tag := by
  simp [Visit.announced, Visit.unknownTag?, shallow, foreign]

theorem announced_error {error : BuildError} (wrong : read.error? env depth = some error) :
    Visit.announced env ⟨depth, some read⟩ = .empty := by
  have known : Visit.unknownTag? env ⟨depth, some read⟩ = none := by
    cases tag : Visit.unknownTag? env ⟨depth, some read⟩ with
    | none => rfl
    | some tag =>
        have sound := Visit.failure?_of_unknown tag
        simp [Visit.failure?, wrong] at sound
  rw [Visit.announced, known]
  rfl

theorem recorded_unknown (tag : String) (lastId : Nat) :
    (recorded env below (.unknown tag)).run lastId =
      let made := (Render.component env below (.unknown tag)).run lastId
      ⟨made.value, .unknownKind tag ++ made.log, made.lastId⟩ := by
  have noted : ((liftM (Build.record (.unknownKind tag)) : Attempt Unit).run lastId).value =
      .ok () := rfl
  rw [recorded, Attempt.bind_ok _ noted]
  exact congrArg (Built.mk _ · _)
    (congrArg (· ++ _) (Diagnostics.append_empty (.unknownKind tag)))

/-- An entry that nothing else is wrong with fails for want of a face once it is announced. -/
theorem attempt_unset (sound : read.error? env depth = none)
    (reads : Component.ofEntry read = .ok component)
    (unset : env.faces component.styles = .error reason) (lastId : Nat) :
    let made := (attempt env depth read below).run lastId
    made.value = .error (.font reason) ∧
      ∃ log, log.Quiet ∧ made.log = Visit.announced env ⟨depth, some read⟩ ++ log := by
  obtain ⟨other, shallow, again, whole, _, same⟩ := attempt_sound sound
  cases reads.symm.trans again
  have ofTag := Component.kind?_ofEntry reads
  obtain ⟨failed, quiet⟩ := component_unset whole unset lastId
  rw [same]
  cases known : component.kind? with
  | some kind =>
      rw [recorded_known known, Attempt.bind_error _ failed,
        announced_known (ofTag.symm.trans known)]
      exact ⟨rfl, _, quiet, (Diagnostics.empty_append _).symm⟩
  | none =>
      cases component with
      | unknown tag =>
          cases Component.ofEntry_unknown reads
          rw [recorded_unknown, announced_unknown shallow (ofTag.symm.trans known)]
          exact ⟨failed, _, quiet, rfl⟩
      | _ => cases known

theorem attempt_made (sound : read.error? env depth = none)
    (reads : Component.ofEntry read = .ok component)
    (set : env.faces component.styles = .ok fonts) (inside : below.Renders env visits)
    (lastId : Nat) :
    let opened := if read.opens env.config.maxDepth depth then visits else []
    let made := (attempt env depth read below).run lastId
    ∃ node, made.value = .ok node ∧
      ((Render.component env below component).run lastId).value = .ok node ∧
      Notes env (⟨depth, some read⟩ :: opened) made.log ∧
      node.faces = fonts ++ opened.flatMap (Visit.faces env) ∧
      ∀ visit ∈ opened, visit.isMade env = true →
        ∃ inner ∈ Node.allOf node.children, visit.Yields env inner := by
  obtain ⟨other, shallow, again, whole, opens, same⟩ := attempt_sound sound
  cases reads.symm.trans again
  have ofTag := Component.kind?_ofEntry reads
  have faultless : read.fault? env depth = none := by
    rw [Entry.fault?_of_sound sound reads, Component.fontError?, set]
  obtain ⟨node, value, noted, shown, present⟩ := component_made whole set inside lastId
  rw [opens, same]
  suffices ended : ((recorded env below component).run lastId).value = .ok node ∧
      Notes env (⟨depth, some read⟩ :: if component.kind?.any Kind.nests then visits else [])
        ((recorded env below component).run lastId).log from
    ⟨node, ended.1, value, ended.2, shown, present⟩
  cases known : component.kind? with
  | some kind =>
      rw [known] at noted
      rw [recorded_known known, Attempt.bind_ok _ value]
      refine ⟨rfl, ?_⟩
      change Notes env _ (_ ++ ((.oneBuilt ++ .empty) ++ .empty))
      rw [Diagnostics.append_empty, Diagnostics.append_empty]
      exact noted.made (ofTag.symm.trans known) faultless
  | none =>
      cases component with
      | unknown tag =>
          cases Component.ofEntry_unknown reads
          rw [recorded_unknown]
          exact ⟨value, (Notes.unknown shallow (ofTag.symm.trans known) faultless).append noted⟩
      | _ => cases known

theorem entry_failed {error : BuildError} (faulty : read.fault? env depth = some error)
    {lastId : Nat} {log : Diagnostics} (quiet : log.Quiet)
    (failed : ((attempt env depth read below).run lastId).value = .error error)
    (noted : ((attempt env depth read below).run lastId).log =
      Visit.announced env ⟨depth, some read⟩ ++ log) :
    let made := entry env depth read below lastId
    Rendered env [⟨depth, some read⟩] made.log (nodes made.value) := by
  unfold entry
  rw [Build.bind_apply]
  dsimp only
  rw [failed, noted]
  have text : Build.Shows (env.face? .regular).toList (errorText env read.tag) :=
    errorText_shows read.tag
  obtain ⟨after, shown⟩ := text ((attempt env depth read below).run lastId).lastId
  refine ⟨?_, ?_, ?_⟩
  · have whole := (Notes.fault faulty quiet).append_quiet after
    rw [Diagnostics.append_assoc] at whole
    exact whole
  · have regular : Visit.faces env ⟨depth, some read⟩ = (env.face? .regular).toList := by
      cases first : env.face? .regular with
      | none => simp [Visit.faces, Visit.styles, Entry.styles, faulty, first]
      | some font => simp [Visit.faces, Visit.styles, Entry.styles, faulty, first]
    rw [List.flatMap_singleton, regular]
    exact shown
  · intro visit visited made
    rw [List.mem_singleton.mp visited] at made
    simp [Visit.isMade, Visit.fault?, faulty] at made

theorem entry_made (sound : read.error? env depth = none)
    (reads : Component.ofEntry read = .ok component)
    (set : env.faces component.styles = .ok fonts)
    (below : (inside env depth read).Renders env visits) :
    Build.Renders env
      (⟨depth, some read⟩ :: if read.opens env.config.maxDepth depth then visits else [])
      (entry env depth read (inside env depth read)) := by
  intro lastId
  have faultless : read.fault? env depth = none := by
    rw [Entry.fault?_of_sound sound reads, Component.fontError?, set]
  obtain ⟨node, made, value, noted, shown, present⟩ := attempt_made sound reads set below lastId
  unfold entry
  rw [Build.bind_apply]
  dsimp only
  rw [made]
  refine ⟨noted.append_quiet .empty, ?_, ?_⟩
  · have own : Visit.faces env ⟨depth, some read⟩ = fonts := by
      rw [env.faces_eq_filterMap set]
      simp [Visit.faces, Visit.styles, Entry.styles, faultless, reads, Except.toOption]
    change Node.facesOf [named read.tag node] = _
    rw [List.flatMap_cons, own, ← shown]
    simp
  · intro visit visited isMade
    change ∃ inner ∈ Node.allOf [named read.tag node], _
    rw [Node.allOf_cons, Node.allOf_nil, List.append_nil, Node.all_eq, children_named]
    rcases List.mem_cons.mp visited with rfl | below
    · exact ⟨_, List.mem_cons_self, read, component, lastId, node, rfl, reads, value, rfl⟩
    · obtain ⟨inner, member, yields⟩ := present visit below isMade
      exact ⟨inner, List.mem_cons_of_mem _ member, yields⟩

theorem entry_renders (read : Entry) (below : (inside env depth read).Renders env visits) :
    Build.Renders env
      (⟨depth, some read⟩ :: if read.opens env.config.maxDepth depth then visits else [])
      (entry env depth read (inside env depth read)) := by
  cases checked : read.error? env depth with
  | some error =>
      intro lastId
      -- What lies below was not built, so it is not visited either.
      rw [Entry.opens_of_error checked]
      have failed : (attempt env depth read (inside env depth read)).run lastId =
          ⟨.error error, .empty, lastId⟩ := attempt_fails checked lastId
      apply entry_failed (Entry.fault?_of_error checked) .empty (congrArg Built.value failed)
      rw [failed, announced_error checked]
      rfl
  | none =>
      obtain ⟨component, _, reads, _, opens⟩ := Entry.reads_of_sound checked
      cases set : env.faces component.styles with
      | ok fonts => exact entry_made checked reads set below
      | error reason =>
          intro lastId
          have single : component.kind?.any Kind.nests = false := by
            by_contra nests
            rw [Component.styles_nests (by simpa using nests), env.faces_nil] at set
            cases set
          have faulty : read.fault? env depth = some (.font reason) := by
            rw [Entry.fault?_of_sound checked reads, Component.fontError?, set]
          obtain ⟨failed, log, quiet, noted⟩ := attempt_unset checked reads set lastId
          rw [opens, single]
          exact entry_failed faulty quiet failed noted

theorem trees_cons_renders {front back : List Visit} {first : Tree} {rest : List Tree}
    (before : Build.Renders env front (tree env depth first))
    (after : Build.Renders env back (trees env depth rest)) :
    Build.Renders env (front ++ back) (trees env depth (first :: rest)) := by
  intro lastId
  have whole := (before lastId).append (after (tree env depth first lastId).lastId)
  rw [trees, Build.bind_apply]
  change Rendered env _ (_ ++ (_ ++ .empty)) (nodes (_ :: _))
  rw [Diagnostics.append_empty, Assembly.nodes_slots_cons]
  exact whole

/-- By induction on the visits: an entry that is built brings what was rendered below it, and nothing
below one that fails is visited. -/
theorem trees_renders (depth : Nat) (values : List Json) :
    Build.Renders env (Visit.all env.config.maxDepth depth values)
      (trees env depth (Tree.ofList values)) := by
  fun_induction Visit.all env.config.maxDepth depth values with
  | case1 depth =>
      intro lastId
      refine ⟨.quiet .empty, rfl, ?_⟩
      intro visit visited
      cases visited
  | case2 depth value rest invalid ih =>
      have skipped : Build.Renders env [⟨depth, none⟩] (tree env depth .invalid) := by
        intro lastId
        rw [tree, Build.bind_apply]
        refine ⟨(Notes.invalid depth).append_quiet .empty, rfl, ?_⟩
        intro visit visited made
        rw [List.mem_singleton.mp visited] at made
        cases made
      rw [Tree.ofList, Tree.ofJson_invalid invalid]
      exact trees_cons_renders skipped ih
  | case3 depth value rest read valid _ below ih =>
      rw [Tree.ofList, Tree.ofJson_entry valid]
      apply trees_cons_renders _ ih
      rw [tree]
      apply entry_renders read
      intro lastId
      have made := below lastId
      rw [inside, kept, Build.bind_apply]
      exact ⟨made.notes.append_quiet .empty, made.faces, made.present⟩

end Render

theorem Renderer.tree_renders (env : Environment) (values : List Json) (renderer : Renderer) :
    ∃ forest after log, renderer.tree env (.array values) = (.ok forest, after) ∧
      after.log = renderer.log ++ log ∧
      Rendered env (Visit.all env.config.maxDepth 0 values) log forest :=
  ⟨_, _, _, renderer.tree_array env values, rfl,
    Render.trees_renders 0 values renderer.lastId⟩

end Wireframe
