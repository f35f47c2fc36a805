import Mathlib.Data.List.Basic
import Wireframe.Catalog.Basic

namespace Wireframe.Catalog

section

variable {α : Type} {write : α → String}

theorem commaLines_cons (more : Bool) (item : α) (rest : List α) :
    commaLines write more (item :: rest) =
      write item ++ (if !rest.isEmpty || more then ",\n" else "\n") ++
        commaLines write more rest := by
  have first : decide (0 < rest.length) = !rest.isEmpty := by
    cases rest <;> rfl
  simp only [commaLines, List.mapIdx_cons, List.length_cons, String.join_cons,
    Nat.add_lt_add_iff_right, first]
  congr 1
  rw [String.append_assoc]
  split <;> rfl

theorem commaLines_before (items : List α) (last : String) :
    commaLines write true items ++ last ++ "\n" =
      ",\n".intercalate (items.map write ++ [last]) ++ "\n" := by
  induction items with
  | nil => simp [commaLines]
  | cons item rest ih =>
      have later : rest.map write ++ [last] ≠ [] := by simp
      rw [commaLines_cons, Bool.or_true, if_pos rfl, List.map_cons, List.cons_append,
        String.intercalate_cons_of_ne_nil later]
      simp only [String.append_assoc] at ih ⊢
      rw [ih]

theorem commaLines_alone {items : List α} (filled : items ≠ []) :
    commaLines write false items = ",\n".intercalate (items.map write) ++ "\n" := by
  induction items with
  | nil => exact absurd rfl filled
  | cons item rest ih =>
      rw [commaLines_cons, Bool.or_false]
      cases rest with
      | nil => simp [commaLines]
      | cons second rest =>
          rw [ih (List.cons_ne_nil _ _), List.map_cons (l := second :: rest),
            String.intercalate_cons_of_ne_nil (List.map_eq_nil_iff.not.mpr (List.cons_ne_nil _ _))]
          exact String.append_assoc.symm

end

/-- The items of a component: a line for each prop in order, and one for the components below if
there may be some. -/
def itemLines (spec : ComponentSpec) : List String :=
  spec.props.map propLine ++ if spec.children then [childrenLine] else []

theorem commaLines_items (spec : ComponentSpec) :
    commaLines propLine spec.children spec.props ++
        (if spec.children then childrenLine ++ "\n" else "") =
      if itemLines spec = [] then "" else ",\n".intercalate (itemLines spec) ++ "\n" := by
  unfold itemLines
  cases spec.children with
  | true =>
      rw [if_pos rfl, if_pos rfl, if_neg (by simp), ← String.append_assoc, commaLines_before]
  | false =>
      rw [if_neg Bool.false_ne_true, if_neg Bool.false_ne_true, List.append_nil,
        String.append_empty]
      cases props : spec.props with
      | nil => rfl
      | cons prop rest => rw [if_neg (by simp), commaLines_alone (List.cons_ne_nil _ _)]

theorem remark_eq (prop : PropSpec) :
    (prop.required = true → remark prop = "") ∧
    (prop.required = false → prop.default = none → remark prop = " (optional)") ∧
    ∀ value, prop.required = false → prop.default = some value →
      remark prop = " (optional, default: " ++ plain value ++ ")" := by
  unfold remark
  refine ⟨fun required => if_pos required, fun optional none => ?_, fun value optional some => ?_⟩
  · rw [if_neg (by simp [optional]), none]
  · rw [if_neg (by simp [optional]), some]

/-- A catalog of some components is described by their blocks, joined by commas, in brackets. Each
block is its header, its items joined by commas, and its end. The line of a prop ends with its
default if it is optional and has one, with a remark if it is optional and has none, and with its
text if it is required. -/
theorem describe_separates {catalog : Catalog} (filled : catalog ≠ []) :
    describe catalog = "[\n" ++ ",\n".intercalate (catalog.map block) ++ "\n]" ∧
    (∀ spec, block spec =
      "  \x7b\n    \"component\": " ++ ("\"" ++ spec.name ++ "\"") ++ ", // " ++
        spec.description ++ "\n" ++ "    \"props\": \x7b\n" ++
        (if itemLines spec = [] then "" else ",\n".intercalate (itemLines spec) ++ "\n") ++
        "    \x7d\n  \x7d") ∧
    ∀ prop : PropSpec, ∃ ending, propLine prop =
        "      " ++ ("\"" ++ prop.name ++ "\"") ++ ": " ++ prop.type.word ++ choices prop.options ++
          " // " ++ prop.description ++ ending ∧
      (prop.required = true → ending = "") ∧
      (prop.required = false → prop.default = none → ending = " (optional)") ∧
      ∀ value, prop.required = false → prop.default = some value →
        ending = " (optional, default: " ++ plain value ++ ")" := by
  refine ⟨?_, fun spec => ?_, fun prop => ⟨remark prop, rfl, remark_eq prop⟩⟩
  · rw [describe, commaLines_alone filled, String.append_assoc, String.append_assoc,
      String.append_assoc]
    rfl
  · rw [← commaLines_items, ← String.append_assoc]
    rfl

/-- A component that nests others and has no props, before one that has a prop and nests none. -/
theorem describe_separates_nested :
    let stack : ComponentSpec := ⟨"Stack", "A stack.", [], true⟩
    let dial : ComponentSpec :=
      ⟨"Dial", "A dial.", [(PropSpec.number "turn" "Its turn").withDefault (.int 30)], false⟩
    [stack, dial] ≠ [] ∧ describe [stack, dial] =
      "[\n  \x7b\n    \"component\": \"Stack\", // A stack.\n    \"props\": \x7b\n" ++
        childrenLine ++ "\n    \x7d\n  \x7d,\n" ++
        "  \x7b\n    \"component\": \"Dial\", // A dial.\n    \"props\": \x7b\n" ++
        "      \"turn\": number // Its turn (optional, default: 30)\n    \x7d\n  \x7d\n]" := by
  intro stack dial
  have some : [stack, dial] ≠ [] := List.cons_ne_nil _ _
  obtain ⟨joined, blocks, _⟩ := describe_separates some
  refine ⟨some, ?_⟩
  rw [joined, List.map_cons, List.map_cons, List.map_nil, blocks, blocks]
  decide +kernel

end Wireframe.Catalog
