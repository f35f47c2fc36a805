import Wireframe.Proofs.Render.Forest
/-!
How deep rendering goes. The containers around an entry can as well be counted in one place for all
entries, up before what lies below a container and down after it; that comes to the same and always
ends where it began. The limit holds exactly: one level of entries below it is recorded, and nothing
below these is looked at.
-/

namespace Wireframe

variable {α β : Type}

/-- Builds that share a counter of the containers around what they build. -/
abbrev Counted (α : Type) : Type := StateT Nat Build α

namespace Counted

def nested (below : Counted α) : Counted α := do
  modify (· + 1)
  let value ← below
  modify (· - 1)
  pure value

def attempt (env : Environment) (read : Entry) (below : Counted (List Node)) :
    Counted (Except BuildError Node) := do
  let depth ← get
  if env.config.maxDepth < depth then pure (.error (.depthExceeded env.config.maxDepth))
  else
    match Component.ofEntry read with
    | .error error => pure (.error (.invalidProps error))
    | .ok component =>
        if component.kind?.any Kind.nests then do
          let children ← nested below
          liftM (Render.recorded env (pure children) component).run
        else liftM (Render.recorded env (pure []) component).run

def entry (env : Environment) (read : Entry) (below : Counted (List Node)) :
    Counted (Option Node) := do
  match ← attempt env read below with
  | .ok node => pure (some (Render.named read.tag node))
  | .error error => do
      liftM (Build.record (.failure read.tag error))
      liftM (Render.errorText env read.tag)

def kept (build : Counted (List (Option α))) : Counted (List α) := do
  let found ← build
  pure (found.filterMap id)

mutual

def tree (env : Environment) : Tree → Counted (Option Node)
  | .invalid => do
      liftM (Build.record .oneSkipped)
      pure none
  | .entry read children => entry env read (kept (trees env children))

def trees (env : Environment) : List Tree → Counted (List (Option Node))
  | [] => pure []
  | first :: rest => do
      let node ← tree env first
      let others ← trees env rest
      pure (node :: others)

end

def steady (build : Nat → Build α) : Counted α := fun depth => do
  let value ← build depth
  pure (value, depth)

theorem run_steady (build : Nat → Build α) (depth : Nat) :
    (steady build).run depth = build depth >>= fun value => pure (value, depth) := rfl

theorem pure_steady (value : α) : (pure value : Counted α) = steady fun _ => pure value := rfl

theorem lift_steady (build : Build α) : (liftM build : Counted α) = steady fun _ => build := rfl

theorem bind_steady (build : Nat → Build α) (next : α → Nat → Build β) :
    (steady build >>= fun value => steady (next value)) =
      steady fun depth => build depth >>= fun value => next value depth := by
  apply StateT.ext
  intro depth
  simp only [StateT.run_bind, run_steady, bind_assoc, pure_bind]

theorem nested_steady (build : Nat → Build α) :
    nested (steady build) = steady fun depth => build (depth + 1) := by
  apply StateT.ext
  intro depth
  simp only [nested, StateT.run_bind, StateT.run_modify, StateT.run_pure, run_steady, bind_assoc,
    pure_bind, Nat.add_sub_cancel]

theorem panel_nests (kind : Kind) (layout : Layout) (decorate : Frame → Frame)
    (below : Build (List Node)) (next : Node → Attempt Node) :
    (liftM (Render.panel kind layout decorate below) >>= next).run =
      below >>= fun children =>
        (liftM (Render.panel kind layout decorate (pure children)) >>= next).run := by
  have lifted (build : Build Node) :
      (liftM build >>= next).run = build >>= fun node => (next node).run :=
    ExceptT.run_bind_lift build next
  simp only [lifted, Render.panel, bind_assoc, pure_bind]

theorem recorded_nests (env : Environment) (below : Build (List Node)) {component : Component}
    (nests : component.kind?.any Kind.nests = true) :
    (Render.recorded env below component).run =
      below >>= fun children => (Render.recorded env (pure children) component).run := by
  cases component with
  | row props => exact panel_nests _ _ _ below _
  | column props => exact panel_nests _ _ _ below _
  | card props => exact panel_nests _ _ _ below _
  | _ => cases nests

theorem recorded_alone (env : Environment) (below : Build (List Node)) {component : Component}
    (single : component.kind?.any Kind.nests = false) :
    Render.recorded env below component = Render.recorded env (pure []) component := by
  unfold Render.recorded
  rw [Render.component_alone below single]

theorem attempt_steady (env : Environment) (read : Entry) (below : Nat → Build (List Node)) :
    attempt env read (steady below) =
      steady fun depth => (Render.attempt env depth read (below (depth + 1))).run := by
  apply StateT.ext
  intro depth
  rw [run_steady, attempt, StateT.run_bind, StateT.run_get, pure_bind, Render.attempt]
  dsimp only
  split
  · rfl
  · cases Component.ofEntry read with
    | error error => rfl
    | ok component =>
        dsimp only
        cases nests : component.kind?.any Kind.nests with
        | true =>
            rw [if_pos rfl, recorded_nests env _ nests, nested_steady]
            simp only [lift_steady, bind_steady, run_steady]
        | false =>
            rw [if_neg Bool.false_ne_true, recorded_alone env (below (depth + 1)) nests]
            rfl

theorem entry_steady (env : Environment) (read : Entry) (below : Nat → Build (List Node)) :
    entry env read (steady below) =
      steady fun depth => Render.entry env depth read (below (depth + 1)) := by
  unfold entry Render.entry
  rw [attempt_steady, ← bind_steady]
  apply bind_congr
  intro result
  cases result with
  | ok node => exact pure_steady _
  | error error =>
      dsimp only
      simp only [lift_steady, bind_steady]

theorem kept_steady (build : Nat → Build (List (Option α))) :
    kept (steady build) = steady fun depth => Render.kept (build depth) := by
  simp only [kept, Render.kept, pure_steady, bind_steady]

mutual

/-- Rendering with a counter is rendering at the depth that it shows, and leaves it there. -/
theorem tree_steady (env : Environment) (tree : Tree) :
    Counted.tree env tree = steady fun depth => Render.tree env depth tree := by
  cases tree with
  | invalid =>
      simp only [Counted.tree, Render.tree, pure_steady, lift_steady, bind_steady]
  | entry read children =>
      simp only [Counted.tree, Render.tree, trees_steady env children, kept_steady, entry_steady]

theorem trees_steady (env : Environment) (trees : List Tree) :
    Counted.trees env trees = steady fun depth => Render.trees env depth trees := by
  cases trees with
  | nil => simp only [Counted.trees, Render.trees, pure_steady]
  | cons first rest =>
      simp only [Counted.trees, Render.trees, tree_steady env first, trees_steady env rest,
        pure_steady, bind_steady]

end

end Counted

/-- What is opened below an entry is within the limit, so no visit is more than one level below it.
-/
theorem Visit.depth_le {limit depth : Nat} (within : depth ≤ limit + 1) (values : List Json) :
    ∀ visit ∈ all limit depth values, visit.depth ≤ limit + 1 := by
  fun_induction all limit depth values with
  | case1 depth =>
      intro visit visited
      cases visited
  | case2 depth value rest invalid ih =>
      intro visit visited
      rcases List.mem_cons.mp visited with rfl | later
      · exact within
      · exact ih within visit later
  | case3 depth value rest read valid _ below ih =>
      intro visit visited
      rcases List.mem_cons.mp visited with rfl | others
      · exact within
      · rcases List.mem_append.mp others with inside | later
        · cases opens : read.opens limit depth with
          | true =>
              have shallow : depth ≤ limit := by
                unfold Entry.opens at opens
                exact of_decide_eq_true (Bool.and_eq_true_iff.mp opens).1
              rw [opens, if_pos rfl] at inside
              exact below (Nat.succ_le_succ shallow) visit inside
          | false =>
              rw [opens, if_neg Bool.false_ne_true] at inside
              cases inside
        · exact ih within visit later

namespace Render

variable {env : Environment} {depth : Nat}

theorem entry_within (shallow : depth ≤ env.config.maxDepth) (read : Entry)
    (below : Build (List Node)) : entry env depth read below = entry env 0 read below := by
  have top : ¬ env.config.maxDepth < 0 := Nat.not_lt_zero _
  unfold entry attempt
  rw [if_neg (Nat.not_lt.mpr shallow), if_neg top]

theorem entry_beyond (deep : env.config.maxDepth < depth) (read : Entry)
    (below other : Build (List Node)) :
    entry env depth read below = entry env depth read other := by
  unfold entry attempt
  rw [if_pos deep, if_pos deep]

theorem errorText_leaf {tag : String} {lastId : Nat} {node : Node}
    (made : (errorText env tag lastId).value = some node) :
    ∃ header run, node = .leaf header (.text run) := by
  rw [errorText, Build.bind_apply] at made
  dsimp only at made
  rcases env.text_cases ⟨"[ERROR: " ++ tag ++ "]", 12, .regular, .left⟩ env.palette.error lastId
    with ⟨font, set⟩ | ⟨_, reason, failed⟩
  · rw [Environment.notice, set] at made
    cases made
    exact ⟨_, _, rfl⟩
  · rw [Environment.notice, failed] at made
    cases made

/-- Beyond the limit there are no frames, only texts. -/
theorem tree_beyond (deep : env.config.maxDepth < depth) {found : Tree} {lastId : Nat} {node : Node}
    (made : (tree env depth found lastId).value = some node) :
    ∃ header run, node = .leaf header (.text run) := by
  cases found with
  | invalid => cases made
  | entry read children =>
      have wrong : read.error? env depth = some (.depthExceeded env.config.maxDepth) := if_pos deep
      rw [tree, entry, Build.bind_apply, attempt_fails wrong] at made
      exact errorText_leaf made

end Render

namespace Renderer

def countEntries (env : Environment) (values : List Json) (depth : Nat) :
    Renderer → (List (Option Node) × Nat) × Renderer :=
  run (Counted.trees env (Tree.ofList values) depth)

def countTree (env : Environment) (value : Json) (depth : Nat) (renderer : Renderer) :
    (Except InputError (List Node) × Nat) × Renderer :=
  match value.array? with
  | none => ((.error (.notAList value.typeName), depth), renderer)
  | some values =>
      let ((nodes, depth), renderer) :=
        renderer.run (Counted.kept (Counted.trees env (Tree.ofList values)) depth)
      ((.ok nodes, depth), renderer)

theorem run_steady {α : Type} (build : Nat → Build α) (depth : Nat) (renderer : Renderer) :
    renderer.run (Counted.steady build depth) =
      let made := renderer.run (build depth)
      ((made.1, depth), made.2) := by
  simp [run, Counted.steady, Build.bind_apply, Pure.pure, Build.pure]

theorem countEntries_eq (env : Environment) (values : List Json) (depth : Nat)
    (renderer : Renderer) :
    renderer.countEntries env values depth =
      let made := renderer.entries env depth values
      ((made.1, depth), made.2) := by
  rw [countEntries, Counted.trees_steady, run_steady]
  rfl

theorem depth_countTree (env : Environment) (value : Json) (depth : Nat) (renderer : Renderer) :
    (renderer.countTree env value depth).1.2 = depth := by
  unfold countTree
  cases value.array? with
  | none => rfl
  | some values =>
      dsimp only
      rw [Counted.trees_steady, Counted.kept_steady, run_steady]

theorem countTree_zero (env : Environment) (value : Json) (renderer : Renderer) :
    renderer.countTree env value 0 =
      let made := renderer.tree env value
      ((made.1, 0), made.2) := by
  unfold countTree tree Render.ofJson?
  cases value.array? with
  | none => rfl
  | some values =>
      dsimp only
      rw [Counted.trees_steady, Counted.kept_steady, run_steady]
      rfl

/-- How a list of entries is rendered under the depth limit. Exactly the entries that are visited
beyond it are recorded as too deep, in their order, and they are one level beyond it. Within the
limit depth makes no difference; beyond it neither does what lies below an entry, and no frame is
made. There are at most three levels of nodes more than the limit. The counter of containers shows
after rendering what it showed before. -/
structure Limited (env : Environment) (values : List Json) (renderer : Renderer) : Prop where
  recorded : (renderer.entries env 0 values).2.log.failures.filter BuildFailure.isTooDeep =
    renderer.log.failures.filter BuildFailure.isTooDeep ++
      (Visit.all env.config.maxDepth 0 values).filterMap (Visit.tooDeep? env.config.maxDepth)
  deepest : ∀ visit ∈ Visit.all env.config.maxDepth 0 values, visit.depth ≤ env.config.maxDepth + 1
  within : ∀ depth ≤ env.config.maxDepth, ∀ read below,
    Render.entry env depth read below = Render.entry env 0 read below
  beyond : ∀ depth, env.config.maxDepth < depth → ∀ read children others,
    Render.tree env depth (.entry read children) = Render.tree env depth (.entry read others)
  frameless : ∀ depth, env.config.maxDepth < depth → ∀ tree lastId node,
    (Render.tree env depth tree lastId).value = some node →
      ∃ header run, node = .leaf header (.text run)
  levels : Node.heightOf ((renderer.entries env 0 values).1.filterMap id) ≤
    env.config.maxDepth + 3
  counted : ∀ depth, renderer.countEntries env values depth =
    let made := renderer.entries env depth values
    ((made.1, depth), made.2)
  countedTree : ∀ value, renderer.countTree env value 0 =
      (let made := renderer.tree env value; ((made.1, 0), made.2)) ∧
    ∀ depth, (renderer.countTree env value depth).1.2 = depth

theorem depth_limited (env : Environment) (values : List Json) (renderer : Renderer) :
    renderer.Limited env values where
  recorded := by
    obtain ⟨stops, _⟩ := renderer.forest_makes env values
    change (renderer.log ++ (Render.entries env values renderer.lastId).log).failures.filter _ = _
    rw [Diagnostics.failures_append, List.filter_append, stops]
  deepest := Visit.depth_le (Nat.zero_le _) values
  within _ shallow := Render.entry_within shallow
  beyond _ deep read children others := by
    rw [Render.tree, Render.tree]
    exact Render.entry_beyond deep read _ _
  frameless _ deep _ _ _ := Render.tree_beyond deep
  levels := (renderer.forest_makes env values).2.1
  counted depth := renderer.countEntries_eq env values depth
  countedTree value := ⟨renderer.countTree_zero env value, renderer.depth_countTree env value⟩

end Renderer

end Wireframe
