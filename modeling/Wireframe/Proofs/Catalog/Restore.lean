import Wireframe.Proofs.Catalog.Describe
import Wireframe.Proofs.Json.Faithful
import Wireframe.Proofs.Json.Numeral
/-!
Catalogs read back. The text of a catalog gives the catalog again, but for one thing: a default that
is declared as `null` is written like any other and read as no default. So what is read is the
catalog without such defaults, and it is the same catalog only if there are none.
-/

namespace Wireframe

open Json (Codec Document Fills Number Plain Shows)

def PropSpec.withoutNull (spec : PropSpec) : PropSpec :=
  { spec with default := spec.default.bind Json.given }

def ComponentSpec.withoutNulls (spec : ComponentSpec) : ComponentSpec :=
  { spec with props := spec.props.map PropSpec.withoutNull }

namespace Catalog

def withoutNulls (catalog : Catalog) : Catalog := catalog.map ComponentSpec.withoutNulls

def defaults (catalog : Catalog) : List Json :=
  catalog.flatMap fun spec => spec.props.filterMap PropSpec.default

end Catalog

variable {R : Number → Number → Prop} {depth : Nat}

theorem PropType.keeps (type : PropType) : PropType.codec.Keeps R depth type := by
  refine ⟨.string _, fun document shows => ?_⟩
  cases shows
  cases type <;> rfl

theorem PropSpec.restores {spec : PropSpec}
    (kept : ∀ value ∈ spec.default, Codec.json.Keeps R (depth + 1) value) :
    PropSpec.codec.Restores R (depth + 2) (PropSpec.codec.encode spec) spec.withoutNull := by
  have options : ∀ options ∈ spec.options, (Codec.list .text).Keeps R (depth + 1) options :=
    fun _ _ => Codec.list_keeps fun option _ => Codec.text_keeps option
  have default : ∀ value ∈ spec.default, Plain R (depth + 1) value ∧ ∀ document,
      Shows R value document →
        document.optional Codec.json.decode = .ok (spec.default.bind Json.given) := by
    intro value there
    refine ⟨(kept value there).plain, fun document shows => ?_⟩
    rw [Option.mem_def.mp there]
    exact Json.optional_toJson ((kept value there).reads document shows)
  refine Fills.restores ?_ (by decide)
  refine .must rfl (Codec.text_keeps _) <| .must rfl (PropType.keeps _) <|
    .must rfl (Codec.text_keeps _) <| .optional rfl (Codec.optional_keeps nofun options) ?_ <|
    .may true rfl (Codec.flag_keeps _) rfl <| .optional rfl default ?_ .done
  · intro none
    rw [none]
    rfl
  · intro none
    rw [none]
    rfl

theorem ComponentSpec.restores {spec : ComponentSpec}
    (kept : ∀ prop ∈ spec.props, ∀ value ∈ prop.default, Codec.json.Keeps R (depth + 1) value) :
    ComponentSpec.codec.Restores R (depth + 4) (ComponentSpec.codec.encode spec)
      spec.withoutNulls := by
  refine Fills.restores ?_ (by decide)
  exact .must rfl (Codec.text_keeps _) <| .must rfl (Codec.text_keeps _) <|
    .must rfl (Codec.list_restores fun prop listed => PropSpec.restores (kept prop listed)) <|
    .may true rfl (Codec.flag_keeps _) rfl .done

namespace Catalog

theorem mem_defaults {catalog : Catalog} {value : Json} :
    value ∈ catalog.defaults ↔
      ∃ spec ∈ catalog, ∃ prop ∈ spec.props, prop.default = some value := by
  simp only [defaults, List.mem_flatMap, List.mem_filterMap]

theorem restores {catalog : Catalog}
    (kept : ∀ value ∈ catalog.defaults, Codec.json.Keeps R (depth + 1) value) :
    codec.Restores R (depth + 5) catalog.toJson catalog.withoutNulls :=
  Codec.list_restores fun spec inside => ComponentSpec.restores fun prop listed value there =>
    kept value (mem_defaults.mpr ⟨spec, inside, prop, listed, there⟩)

theorem map_eq_self_iff {α : Type} {f : α → α} {items : List α} :
    items.map f = items ↔ ∀ item ∈ items, f item = item :=
  (Eq.congr_right (List.map_id items).symm).trans List.map_inj_left

theorem withoutNulls_eq_self_iff {catalog : Catalog} :
    catalog.withoutNulls = catalog ↔ .null ∉ catalog.defaults := by
  have prop (spec : PropSpec) : spec.withoutNull = spec ↔ spec.default ≠ some .null := by
    obtain ⟨name, type, description, options, required, default⟩ := spec
    rw [← Json.given_eq_self_iff, PropSpec.withoutNull, PropSpec.mk.injEq]
    simp
  have component (spec : ComponentSpec) :
      spec.withoutNulls = spec ↔ ∀ prop ∈ spec.props, prop.default ≠ some .null := by
    obtain ⟨name, description, props, children⟩ := spec
    rw [ComponentSpec.withoutNulls, ComponentSpec.mk.injEq]
    simp [map_eq_self_iff, prop]
  rw [withoutNulls, map_eq_self_iff, mem_defaults]
  simp only [component]
  push Not
  rfl

theorem default?_withoutNulls (catalog : Catalog) (component prop : String) :
    catalog.withoutNulls.default? component prop =
      (catalog.default? component prop).bind Json.given := by
  have found : catalog.withoutNulls.component? component =
      (catalog.component? component).map ComponentSpec.withoutNulls := List.find?_map
  have within (spec : ComponentSpec) :
      spec.withoutNulls.prop? prop = (spec.prop? prop).map PropSpec.withoutNull := List.find?_map
  simp only [default?, found, Option.bind_map, Option.bind_assoc, Function.comp_def, within]
  rfl

/-- A text that is shorter than another under a condition, and the same otherwise. -/
structure Shortens (P : Prop) (text old : String) : Prop where
  shorter : P → text.length < old.length
  same : ¬ P → text = old

namespace Shortens

variable {P Q : Prop} {text old other second : String}

theorem le (shortens : Shortens P text old) : text.length ≤ old.length := by
  by_cases cut : P
  · exact le_of_lt (shortens.shorter cut)
  · rw [shortens.same cut]

theorem append (first : Shortens P text old) (next : Shortens Q other second) :
    Shortens (P ∨ Q) (text ++ other) (old ++ second) := by
  refine ⟨fun cut => ?_, fun same => ?_⟩
  · rw [String.length_append, String.length_append]
    rcases cut with cut | cut
    · exact add_lt_add_of_lt_of_le (first.shorter cut) next.le
    · exact add_lt_add_of_le_of_lt first.le (next.shorter cut)
  · rw [first.same (same ∘ Or.inl), next.same (same ∘ Or.inr)]

theorem refl (text : String) : Shortens False text text := ⟨False.elim, fun _ => rfl⟩

theorem behind (shortens : Shortens P text old) (start : String) :
    Shortens P (start ++ text) (start ++ old) := by
  simpa using (refl start).append shortens

theorem before (shortens : Shortens P text old) (rest : String) :
    Shortens P (text ++ rest) (old ++ rest) := by
  simpa using shortens.append (refl rest)

theorem eq_iff (shortens : Shortens P text old) : text = old ↔ ¬ P :=
  ⟨fun same cut => (shortens.shorter cut).ne (congrArg String.length same), shortens.same⟩

end Shortens

theorem commaLines_shortens {α : Type} {write : α → String} {f : α → α} {P : α → Prop}
    (each : ∀ item, Shortens (P item) (write (f item)) (write item)) (more : Bool)
    (items : List α) :
    Shortens (∃ item ∈ items, P item) (commaLines write more (items.map f))
      (commaLines write more items) := by
  induction items with
  | nil => simpa using Shortens.refl (commaLines write more [])
  | cons item rest ih =>
      rw [List.map_cons, commaLines_cons, commaLines_cons, List.isEmpty_map]
      simpa using ((each item).before _).append ih

/-- Whether the line of a prop tells that its default is `null`. -/
def TellsNull (prop : PropSpec) : Prop := prop.default = some .null ∧ prop.required = false

theorem remark_shortens (prop : PropSpec) :
    Shortens (TellsNull prop) (remark prop.withoutNull) (remark prop) := by
  obtain ⟨name, type, description, options, required, default⟩ := prop
  refine ⟨?_, fun other => ?_⟩
  · rintro ⟨rfl, rfl⟩
    change " (optional)".length < (" (optional, default: " ++ "null" ++ ")").length
    decide
  · unfold remark
    cases required with
    | true => rfl
    | false =>
        rw [PropSpec.withoutNull, Json.given_eq_self_iff.mpr fun null => other ⟨null, rfl⟩]

theorem propLine_shortens (prop : PropSpec) :
    Shortens (TellsNull prop) (propLine prop.withoutNull) (propLine prop) :=
  (remark_shortens prop).behind _

theorem block_shortens (spec : ComponentSpec) :
    Shortens (∃ prop ∈ spec.props, TellsNull prop) (block spec.withoutNulls) (block spec) := by
  have lines := commaLines_shortens propLine_shortens spec.children spec.props
  exact ((lines.behind _).before _).before _

theorem describe_withoutNulls (catalog : Catalog) :
    Shortens (∃ spec ∈ catalog, ∃ prop ∈ spec.props, TellsNull prop)
      catalog.withoutNulls.describe catalog.describe := by
  have blocks := commaLines_shortens block_shortens false catalog
  exact (blocks.behind _).before _

/-- What is read from the text of a catalog is the catalog without the defaults that are `null`: it
has the same defaults otherwise, it is the same catalog if and only if no default is `null`, and it
is described in the same way if and only if none of an optional prop is. The defaults have tables
for objects, read their numbers back as they are, and are not too deep to be read inside a catalog.
-/
theorem reading_drops_nulls {catalog : Catalog}
    (ordered : ∀ value ∈ catalog.defaults, value.Ordered)
    (plain : ∀ value ∈ catalog.defaults, Plain Number.Lasts 123 value) :
    Catalog.ofText catalog.toJson.pretty = .ok catalog.withoutNulls ∧
      (catalog.withoutNulls = catalog ↔ .null ∉ catalog.defaults) ∧
      (∀ component prop, catalog.withoutNulls.default? component prop =
        (catalog.default? component prop).bind Json.given) ∧
      (catalog.withoutNulls.describe = catalog.describe ↔
        ∀ spec ∈ catalog, ∀ prop ∈ spec.props, prop.default = some .null →
          prop.required = true) := by
  have kept : ∀ value ∈ catalog.defaults, Codec.json.Keeps Number.Lasts 123 value :=
    fun value inside => Codec.json_keeps (fun _ _ => And.left) (ordered value inside)
      (plain value inside)
  have read := (restores kept).ofText_pretty (by decide) fun _ _ => Number.Lasts.prints
  refine ⟨read, withoutNulls_eq_self_iff, default?_withoutNulls catalog, ?_⟩
  rw [(describe_withoutNulls catalog).eq_iff]
  simp [TellsNull]

/-- A default with a `null` inside stays; beside it, one that is `null` is lost. -/
theorem reading_drops_nulls_beside :
    let start : Json := .object [("at", .null), ("step", .int 4)]
    let props (second : Option Json) : List PropSpec := [
      (PropSpec.string "from" "Its start").withDefault start,
      { PropSpec.number "size" "Its size" with default := second }]
    let gap (second : Option Json) : Catalog := [⟨"Gap", "A gap.", props second, false⟩]
    Catalog.ofText (gap (some .null)).toJson.pretty = .ok (gap none) := by
  intro start props gap
  have listed : ∀ value ∈ (gap (some .null)).defaults, value = start ∨ value = .null := by
    intro value inside
    simpa [gap, props, defaults, PropSpec.withDefault, PropSpec.string, PropSpec.number,
      PropSpec.ofType] using inside
  have four : Number.Lasts (.whole 4) (.whole 4) := ⟨rfl, rfl⟩
  have ascends : Table.Ascends [("at", Json.null), ("step", Json.int 4)] := by
    unfold Table.Ascends
    decide
  have ordered : ∀ value ∈ (gap (some .null)).defaults, value.Ordered := by
    intro value inside
    rcases listed value inside with rfl | rfl
    · exact .object ascends (by simpa using ⟨.null, .number (.whole 4)⟩)
    · exact .null
  have plain : ∀ value ∈ (gap (some .null)).defaults, Plain Number.Lasts 123 value := by
    intro value inside
    rcases listed value inside with rfl | rfl
    · exact .object (by simpa using ⟨.null, .number four⟩)
    · exact .null
  exact (reading_drops_nulls ordered plain).1

/-- The default `null` of an optional prop is told in the description of the catalog and not in that
of the catalog read back, which has no such default. -/
theorem null_default_lost :
    let gap : Catalog :=
      [⟨"Gap", "A gap.", [(PropSpec.number "size" "Its size").withDefault .null], false⟩]
    ∃ read, Catalog.ofText gap.toJson.pretty = .ok read ∧ read ≠ gap ∧
      gap.default? "Gap" "size" = some .null ∧ read.default? "Gap" "size" = none ∧
      read.describe ≠ gap.describe := by
  intro gap
  have listed : ∀ value ∈ gap.defaults, value = .null := by
    simp [gap, defaults, PropSpec.withDefault]
  have kept : ∀ value ∈ gap.defaults, Codec.json.Keeps Number.Lasts 1 value := by
    intro value inside
    rw [listed value inside]
    exact Codec.json_keeps (fun _ _ => And.left) .null .null
  refine ⟨gap.withoutNulls,
    (restores kept).ofText_pretty (by decide) fun _ _ => Number.Lasts.prints, ?_, rfl, rfl, ?_⟩
  · rw [Ne, withoutNulls_eq_self_iff, not_not]
    simp [gap, defaults, PropSpec.withDefault]
  · rw [Ne, (describe_withoutNulls gap).eq_iff, not_not]
    exact ⟨_, List.mem_cons_self, _, List.mem_cons_self, rfl, rfl⟩

end Catalog

end Wireframe
