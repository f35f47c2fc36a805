import Wireframe.Catalog.Builtin
import Wireframe.Proofs.Render.Shortage
import Wireframe.Render.Renderer
/-!
The record accounts for what was visited: each visit leaves one note of its own sort, in the order
of the visits. A container is counted after what lies below it, which no list can tell.
-/

namespace Wireframe

/-- A record notes exactly these visits. -/
structure Accounts (env : Environment) (visits : List Visit) (log : Diagnostics) : Prop where
  skipped : log.skipped = visits.countP Visit.isSkipped
  unknownKinds : log.unknownKinds = visits.filterMap (Visit.unknownTag? env)
  failures : log.failures = visits.filterMap (Visit.failure? env)
  built : log.built = visits.countP (Visit.isBuilt env)

namespace Accounts

variable {env : Environment} {visits : List Visit}

theorem append_quiet {first second : Diagnostics} (before : Accounts env visits first)
    (after : second.Quiet) : Accounts env visits (first ++ second) where
  skipped := by simp [before.skipped, after.skipped]
  unknownKinds := by simp [before.unknownKinds, after.unknownKinds]
  failures := by simp [before.failures, after.failures]
  built := by simp [before.built, after.built]

theorem quiet_append {first second : Diagnostics} (before : first.Quiet)
    (after : Accounts env visits second) : Accounts env visits (first ++ second) where
  skipped := by simp [before.skipped, after.skipped]
  unknownKinds := by simp [before.unknownKinds, after.unknownKinds]
  failures := by simp [before.failures, after.failures]
  built := by simp [before.built, after.built]

end Accounts

section

variable {env : Environment}

theorem Environment.faces_of_regular (regular : env.HasRegular) (styles : List FontStyle) :
    ∃ fonts, env.faces styles = .ok fonts := by
  induction styles with
  | nil => exact ⟨[], env.faces_nil⟩
  | cons style rest ih =>
      obtain ⟨fonts, others⟩ := ih
      rcases env.style_cases style with ⟨font, _, set, _⟩ | ⟨reason, _, _, failed⟩
      · refine ⟨font :: fonts, ?_⟩
        rw [← List.singleton_append, env.faces_append, set, others]
        rfl
      · obtain ⟨font, resolved⟩ := Font.resolve_of_regular regular style
        cases resolved.symm.trans failed

theorem Entry.fault?_of_regular (regular : env.HasRegular) (depth : Nat) (entry : Entry) :
    entry.fault? env depth = entry.error? env depth := by
  cases wrong : entry.error? env depth with
  | some error => exact fault?_of_error wrong
  | none =>
      rw [fault?, wrong, Option.none_or]
      cases Component.ofEntry entry with
      | error error => rfl
      | ok component =>
          obtain ⟨fonts, set⟩ := env.faces_of_regular regular component.styles
          change component.fontError? env = none
          rw [Component.fontError?, set]

theorem Visit.fault?_of_regular (regular : env.HasRegular) : fault? env = failure? env := by
  funext visit
  simp only [fault?, failure?, Entry.fault?_of_regular regular]

theorem Notes.accounts {visits : List Visit} {log : Diagnostics} (regular : env.HasRegular)
    (notes : Notes env visits log) : Accounts env visits log := by
  have same := Visit.fault?_of_regular regular
  have made : Visit.isMade env = Visit.isBuilt env := by
    funext visit
    rw [Visit.isMade, Visit.isBuilt, same]
  refine ⟨notes.skipped, notes.unknownKinds, ?_, ?_⟩
  · rw [notes.failures, same]
  · rw [notes.built, made]

/-- With a regular face the notes of a rendering account for its visits. -/
theorem Render.trees_accounts (regular : env.HasRegular) (depth : Nat) (values : List Json) :
    Build.Leaves (trees env depth (Tree.ofList values))
      (Accounts env (Visit.all env.config.maxDepth depth values)) :=
  fun lastId => (trees_renders depth values lastId).notes.accounts regular

end

variable {env : Environment}

/-- Every entry that is visited is accounted for exactly once: passed over, of an unknown kind,
failed or built. What is listed is in document order. -/
theorem Renderer.log_accounts (regular : env.HasRegular) (values : List Json) (lastId : Nat) :
    let visits := Visit.all env.config.maxDepth 0 values
    let log := ((Renderer.fresh lastId).tree env (.array values)).2.log
    log.skipped = visits.countP Visit.isSkipped ∧
      log.unknownKinds = visits.filterMap (Visit.unknownTag? env) ∧
      log.failures = visits.filterMap (Visit.failure? env) ∧
      log.built = visits.countP (Visit.isBuilt env) ∧
      log.built + log.failures.length + log.unknownKinds.length + log.skipped =
        visits.length := by
  intro visits log
  have noted : Accounts env visits log :=
    .quiet_append .empty ((Render.trees_accounts regular 0 values lastId).append_quiet .empty)
  refine ⟨noted.skipped, noted.unknownKinds, noted.failures, noted.built, ?_⟩
  rw [noted.skipped, noted.unknownKinds, noted.failures, noted.built]
  exact Visit.length_sorts env visits

/-- A row around an entry of an unknown kind and something that is no entry. -/
theorem Renderer.log_accounts_row :
    let env : Environment :=
      ⟨.standard, .builtin, Font.ofFaces (Font.family "Inter"), .library⟩
    let chart : Json := .object [("component", .string "Chart"), ("props", .object [])]
    let row : Json := .object
      [("component", .string "Row"), ("props", .object [("children", .array [chart, .null])])]
    let log := ((Renderer.fresh 0).tree env (.array [row])).2.log
    env.HasRegular ∧ log.skipped = 1 ∧ log.unknownKinds = ["Chart"] ∧ log.failures = [] ∧
      log.built = 1 := by
  intro env chart row log
  have regular : env.HasRegular := ⟨"Inter", by decide, by decide⟩
  let outer : Entry := ⟨"Row", [("children", .array [chart, .null])]⟩
  let inner : Entry := ⟨"Chart", []⟩
  have opens : outer.opens env.config.maxDepth 0 = true := by decide
  have closed : inner.opens env.config.maxDepth 1 = false := by decide
  have visits : Visit.all env.config.maxDepth 0 [row] =
      [⟨0, some outer⟩, ⟨1, some inner⟩, ⟨1, none⟩] := by
    simp [row, chart, Visit.all, Entry.ofJson?, Json.member?, Json.string?, Json.object?,
      List.lookup_cons, opens, closed, outer, inner, Entry.children, Json.array?]
  obtain ⟨skipped, unknownKinds, failures, built, _⟩ := Renderer.log_accounts regular [row] 0
  rw [visits] at skipped unknownKinds failures built
  exact ⟨regular, skipped, unknownKinds, failures, built⟩

end Wireframe
