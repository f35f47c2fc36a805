import Wireframe.Catalog.Builtin
import Wireframe.Proofs.Render.ContextFree
import Wireframe.Proofs.Render.Reliability
/-!
The forest that a list of entries becomes. Its nodes are numbered in the order in which they were
made, it has no more levels than the depth limit allows, and exactly the entries that are visited
below the limit are recorded as too deep. This holds whatever faces there are; with a regular face
no number is lost either.
-/

namespace Wireframe

def BuildFailure.isTooDeep (failure : BuildFailure) : Bool :=
  match failure.error with
  | .depthExceeded _ => true
  | _ => false

/-- How a visit of an entry with more containers around it than the limit allows is recorded. -/
def Visit.tooDeep? (limit : Nat) (visit : Visit) : Option BuildFailure := do
  let entry ← visit.entry
  if limit < visit.depth then some ⟨entry.tag, .depthExceeded limit⟩ else none

def Diagnostics.Stops (limit : Nat) (visits : List Visit) (log : Diagnostics) : Prop :=
  log.failures.filter BuildFailure.isTooDeep = visits.filterMap (Visit.tooDeep? limit)

theorem IconRef.error?_cases {icons : IconProvider} {icon : IconRef} {error : BuildError}
    (wrong : icon.error? icons = some error) :
    (∃ name, error = .missingIcon name) ∨ ∃ name, error = .invalidMarkup name := by
  unfold error? at wrong
  cases found : icon.markup? icons with
  | none =>
      rw [found] at wrong
      exact Or.inl ⟨_, (Option.some.inj wrong).symm⟩
  | some markup =>
      rw [found] at wrong
      obtain ⟨_, same⟩ := Option.ite_none_left_eq_some.mp wrong
      exact Or.inr ⟨_, (Option.some.inj same).symm⟩

namespace Diagnostics.Stops

variable {limit depth : Nat} {entry : Entry} {visits : List Visit} {log : Diagnostics}

theorem silent (none : log.failures = []) : Stops limit [] log := by
  unfold Stops
  rw [none, List.filter_nil, List.filterMap_nil]

theorem quiet (quiet : log.Quiet) : Stops limit [] log := silent quiet.failures

theorem append {front back : List Visit} {first second : Diagnostics}
    (before : Stops limit front first) (after : Stops limit back second) :
    Stops limit (front ++ back) (first ++ second) := by
  unfold Stops at before after ⊢
  rw [failures_append, List.filter_append, before, after, List.filterMap_append]

theorem append_silent {first second : Diagnostics} (before : Stops limit visits first)
    (after : Stops limit [] second) : Stops limit visits (first ++ second) := by
  have whole := before.append after
  rwa [List.append_nil] at whole

theorem visit {entry : Option Entry} (within : entry = none ∨ depth ≤ limit)
    (below : Stops limit visits log) : Stops limit (⟨depth, entry⟩ :: visits) log := by
  have unnoted : Visit.tooDeep? limit ⟨depth, entry⟩ = none := by
    rcases within with rfl | shallow
    · rfl
    · cases entry with
      | none => rfl
      | some entry => simp [Visit.tooDeep?, Nat.not_lt.mpr shallow]
  unfold Stops at below ⊢
  rw [List.filterMap_cons, unnoted, below]

theorem tooDeep (deep : limit < depth) :
    Stops limit [⟨depth, some entry⟩] (failure entry.tag (.depthExceeded limit)) := by
  simp [Stops, failure, BuildFailure.isTooDeep, Visit.tooDeep?, deep]

theorem other {error : BuildError} (other : BuildFailure.isTooDeep ⟨entry.tag, error⟩ = false) :
    Stops limit [] (failure entry.tag error) := by
  simp [Stops, failure, other]

theorem failure {env : Environment} {error : BuildError}
    (wrong : entry.error? env depth = some error) :
    Stops env.config.maxDepth [⟨depth, some entry⟩] (failure entry.tag error) := by
  rcases entry.error?_cases env depth with
    ⟨deep, same⟩ | ⟨shallow, mistyped, _, same⟩ | ⟨shallow, component, _, same⟩
  · cases wrong.symm.trans same
    exact tooDeep deep
  · cases wrong.symm.trans same
    exact visit (Or.inr shallow) (other rfl)
  · have broken := same.symm.trans wrong
    obtain ⟨props, rfl⟩ := Component.eq_icon_of_error broken
    rcases IconRef.error?_cases broken with ⟨name, rfl⟩ | ⟨name, rfl⟩
    · exact visit (Or.inr shallow) (other rfl)
    · exact visit (Or.inr shallow) (other rfl)

end Diagnostics.Stops

open Assembly (nodes)
open Diagnostics (Stops)

namespace Render

variable {env : Environment} {depth height : Nat} {visits : List Visit} {below : Build (List Node)}

variable {gaps : Prop} {kept : Diagnostics → Prop}

theorem panel_makes (joined : ∀ front back, kept front → back.Quiet → kept (front ++ back))
    (inside : Build.Makes gaps kept height [] below) (kind : Kind) (layout : Layout)
    (decorate : Frame → Frame) :
    Build.Makes gaps kept (height + 1) [] (panel kind layout decorate below) := by
  apply Build.Makes.andThen joined inside
  intro children low
  exact .framed (by simp) _ _ low (by simp) (by simp)

theorem nested_makes (joined : ∀ front back, kept front → back.Quiet → kept (front ++ back))
    (inside : Build.Makes gaps kept height [] below) {read : Component}
    (nests : read.kind?.any Kind.nests = true) :
    Attempt.Makes gaps kept (height + 1) [] (component env below read) := by
  cases read with
  | row props => exact .lift (panel_makes joined inside _ _ _)
  | column props => exact .lift (panel_makes joined inside _ _ _)
  | card props => exact .lift (panel_makes joined inside _ _ _)
  | _ => cases nests

theorem counted_makes {limit : Nat} {attempt : Attempt Node}
    (made : Attempt.Makes gaps (Stops limit visits) height [] attempt) :
    Attempt.Makes gaps (Stops limit visits) height [] (do
      let node ← attempt
      Build.record .oneBuilt
      pure node) := by
  apply Attempt.Makes.andThen (fun _ _ front back => front.append_silent back) made
  intro node low
  have noted : Attempt.Makes gaps (Stops limit []) height ([node] ++ []) (do
      Build.record .oneBuilt
      pure node) := by
    apply Attempt.Makes.bindWith (fun _ _ front back => front.append (.quiet back))
      (.lift (.record (.silent rfl)))
    intro _ _
    exact .pure (by simp) (by simpa using low)
  rwa [List.append_nil] at noted

theorem unknown_makes (tag : String) :
    Attempt.Makes (¬ env.HasRegular) (Stops env.config.maxDepth []) 3 []
      (recorded env below (.unknown tag)) := by
  apply Attempt.Makes.andThen
    (fun _ _ front back => front.append (.quiet back)) (.lift (.record (.silent rfl)))
  intro _ _
  exact component_makes below rfl rfl

/-- An entry that nothing is wrong with has three levels of its own, or one more than lies below it.
-/
theorem attempt_makes {read : Entry} (sound : read.error? env depth = none)
    (inside : depth ≤ env.config.maxDepth →
      Build.Makes (¬ env.HasRegular) (Stops env.config.maxDepth visits)
        (env.config.maxDepth + 2 - depth) [] below) :
    Attempt.Makes (¬ env.HasRegular)
      (Stops env.config.maxDepth (if read.opens env.config.maxDepth depth then visits else []))
      (env.config.maxDepth + 3 - depth) [] (attempt env depth read below) := by
  obtain ⟨component, shallow, _, whole, opens, made⟩ := attempt_sound sound
  have three : 3 ≤ env.config.maxDepth + 3 - depth := by omega
  rw [opens, made]
  cases known : component.kind? with
  | none =>
      cases component with
      | unknown tag => exact (unknown_makes tag).mono three
      | _ => cases known
  | some kind =>
      rw [recorded_known known]
      apply counted_makes
      cases nests : component.kind?.any Kind.nests with
      | true =>
          have level : env.config.maxDepth + 3 - depth = env.config.maxDepth + 2 - depth + 1 := by
            omega
          rw [← known, nests, level]
          exact nested_makes (fun _ _ front back => front.append_silent (.quiet back))
            (inside shallow) nests
      | false =>
          rw [← known, nests]
          have single := (component_makes below whole nests).mono three
          exact single.weaken fun _ quiet => .quiet quiet

@[simp] theorem ids_named (tag : String) (node : Node) : (named tag node).ids = node.ids := by
  unfold named
  split
  · exact Node.ids_rename tag node
  · rfl

@[simp] theorem height_named (tag : String) (node : Node) :
    (named tag node).height = node.height := by
  unfold named
  split
  · exact Node.height_rename tag node
  · rfl

theorem failed_makes {limit : Nat} {read : Entry} {error : BuildError}
    (noted : Stops limit visits (.failure read.tag error)) :
    Build.Makes (¬ env.HasRegular) (Stops limit visits) 1 [] (do
      Build.record (.failure read.tag error)
      errorText env read.tag) := by
  apply Build.Makes.andThen
    (fun _ _ front back => Diagnostics.Stops.append_silent front (.quiet back)) (.record noted)
  intro _ _
  exact errorText_makes read.tag

theorem entry_makes (within : depth ≤ env.config.maxDepth + 1) (read : Entry)
    (inside : depth ≤ env.config.maxDepth →
      Build.Makes (¬ env.HasRegular) (Stops env.config.maxDepth visits)
        (env.config.maxDepth + 2 - depth) [] below) :
    Build.Makes (¬ env.HasRegular)
      (Stops env.config.maxDepth
        (⟨depth, some read⟩ :: if read.opens env.config.maxDepth depth then visits else []))
      (env.config.maxDepth + 3 - depth) [] (entry env depth read below) := by
  have high : 1 ≤ env.config.maxDepth + 3 - depth := by omega
  cases checked : read.error? env depth with
  | none =>
      have shallow : depth ≤ env.config.maxDepth := by
        apply Nat.le_of_not_lt
        intro deep
        simp [Entry.error?, deep] at checked
      apply Build.Makes.weaken _ fun _ noted => Diagnostics.Stops.visit (Or.inr shallow) noted
      apply Attempt.Makes.recover (fun _ _ front back => front.append_silent back)
        (attempt_makes checked inside)
      · intro node low
        apply Build.Makes.weaken _ fun _ quiet => Diagnostics.Stops.quiet quiet
        exact .pure (by simp) (by simpa using low)
      · intro reason
        exact (failed_makes (.other rfl)).mono high
  | some error =>
      have failed : Build.Makes (¬ env.HasRegular) _ _ [] _ :=
        (failed_makes (Diagnostics.Stops.failure checked)).mono high
      rw [Entry.opens_of_error checked]
      intro low rest lastId taken
      have made := failed low rest lastId taken
      rw [entry, Build.bind_apply, attempt_fails checked]
      dsimp only
      rw [Diagnostics.empty_append]
      exact made

theorem kept_makes {build : Build (List (Option Node))}
    (joined : ∀ front back, kept front → back.Quiet → kept (front ++ back))
    (makes : Build.Makes gaps kept height [] build) :
    Build.Makes gaps kept height [] (Render.kept build) := by
  apply Build.Makes.andThen joined makes
  intro slots low
  exact .pure rfl low

theorem trees_cons_makes {limit : Nat} {front back : List Visit} {first : Tree} {rest : List Tree}
    (before : Build.Makes gaps (Stops limit front) height [] (tree env depth first))
    (after : Build.Makes gaps (Stops limit back) height [] (trees env depth rest)) :
    Build.Makes gaps (Stops limit (front ++ back)) height [] (trees env depth (first :: rest)) := by
  rw [trees]
  apply Build.Makes.andThen (fun _ _ front back => front.append back) before
  intro node nodeLow
  have others : Build.Makes gaps (Stops limit back) height (nodes node ++ []) (do
      let others ← trees env depth rest
      pure (node :: others)) := by
    apply Build.Makes.bindWith (fun _ _ front back => front.append_silent (.quiet back)) after
    intro others othersLow
    refine .pure (by simp) ?_
    simp_all
  rwa [List.append_nil] at others

/-- By induction on the visits: below an entry all is one level lower. -/
theorem trees_makes (within : depth ≤ env.config.maxDepth + 1) (values : List Json) :
    Build.Makes (¬ env.HasRegular)
      (Stops env.config.maxDepth (Visit.all env.config.maxDepth depth values))
      (env.config.maxDepth + 3 - depth) [] (trees env depth (Tree.ofList values)) := by
  fun_induction Visit.all env.config.maxDepth depth values with
  | case1 depth =>
      rw [Tree.ofList, trees]
      apply Build.Makes.weaken _ fun _ quiet => Diagnostics.Stops.quiet quiet
      exact .pure (by simp) (by simp)
  | case2 depth value rest invalid ih =>
      have skipped : Build.Makes (¬ env.HasRegular) (Stops env.config.maxDepth [⟨depth, none⟩])
          (env.config.maxDepth + 3 - depth) [] (tree env depth .invalid) := by
        apply Build.Makes.andThen
          (fun _ _ front back => Diagnostics.Stops.append_silent front (.quiet back))
          (.record (Diagnostics.Stops.visit (Or.inl rfl) (.silent rfl)))
        intro _ _
        exact .pure (by simp) (by simp)
      rw [Tree.ofList, Tree.ofJson_invalid invalid]
      exact trees_cons_makes skipped (ih within)
  | case3 depth value rest read valid _ below ih =>
      rw [Tree.ofList, Tree.ofJson_entry valid]
      apply trees_cons_makes _ (ih within)
      rw [tree]
      apply entry_makes within
      intro shallow
      have lower := below (Nat.succ_le_succ shallow)
      have level : env.config.maxDepth + 3 - (depth + 1) = env.config.maxDepth + 2 - depth := by
        omega
      rw [level] at lower
      exact kept_makes (fun _ _ front back => front.append_silent (.quiet back)) lower

end Render

namespace Renderer

variable (env : Environment) (values : List Json) (renderer : Renderer)

theorem forest_makes :
    let slots := renderer.entries env 0 values
    Stops env.config.maxDepth (Visit.all env.config.maxDepth 0 values)
        (Render.entries env values renderer.lastId).log ∧
      Node.heightOf (slots.1.filterMap id) ≤ env.config.maxDepth + 3 ∧
      Taken (¬ env.HasRegular) renderer.lastId slots.2.lastId
        (Node.idsOf (slots.1.filterMap id)) :=
  Render.trees_makes (Nat.zero_le _) values renderer.lastId [] renderer.lastId (.none _ _)

theorem tree_taken {value : Json} {forest : List Node} {after : Renderer}
    (made : renderer.tree env value = (.ok forest, after)) :
    Taken (¬ env.HasRegular) renderer.lastId after.lastId (Node.idsOf forest) := by
  cases value with
  | array values =>
      rw [tree_array] at made
      cases made
      exact (renderer.forest_makes env values).2.2
  | _ => cases made

/-- Numbers are given in the order in which nodes are made, children before their frame and entries
one after the other, from the number after the last one on. With a regular face they have no gaps,
whatever happens to single entries. -/
theorem ids_ascend (env : Environment) (values : List Json) (renderer : Renderer) :
    let slots := renderer.entries env 0 values
    let forest := slots.1.filterMap id
    (Node.idsOf forest).Pairwise (· < ·) ∧
      (∀ id ∈ Node.idsOf forest, renderer.lastId < id ∧ id ≤ slots.2.lastId) ∧
      (env.HasRegular →
        Node.idsOf forest = List.range' (renderer.lastId + 1) (Node.countOf forest) ∧
          slots.2.lastId = renderer.lastId + Node.countOf forest) := by
  intro slots forest
  obtain ⟨_, _, taken⟩ := renderer.forest_makes env values
  refine ⟨taken.ascending, taken.range, ?_⟩
  intro regular
  have whole := taken.eq_range (not_not_intro regular)
  rw [Node.length_idsOf] at whole
  exact whole

/-- Between entries that are passed over, unknown and broken no number is lost. -/
theorem ids_ascend_broken :
    let env : Environment := ⟨.standard, .builtin, Font.ofFaces (Font.family "Inter"), .library⟩
    let component (tag : String) (props : List (String × Json)) : Json :=
      .object [("component", .string tag), ("props", .object props)]
    let values := [component "Chart" [], .null,
      component "Row" [("children", .array [component "Switch" [("checked", .string "on")]])]]
    let slots := (⟨4, .empty⟩ : Renderer).entries env 0 values
    env.HasRegular ∧ Node.idsOf (slots.1.filterMap id) = [5, 6, 7] ∧ slots.2.lastId = 7 := by
  intro env component values slots
  have regular : env.HasRegular := ⟨"Inter", by decide, by decide⟩
  have three : Node.countOf (slots.1.filterMap id) = 3 := by decide +kernel
  obtain ⟨ids, lastId⟩ := (ids_ascend env values ⟨4, .empty⟩).2.2 regular
  rw [three] at ids lastId
  exact ⟨regular, ids, lastId⟩

end Renderer

end Wireframe
