import Wireframe.Proofs.Render.Alike
/-!
What entries are read as. A kind says which props it knows and of which types. An entry of the kind
is read if and only if whatever it gives under these names has those types, and then the component
holds just these values. Props of other names, and what lies below an entry, are not looked at.
-/

namespace Wireframe

inductive PropValue where
  | string (text : String)
  | number (number : Float32)
  | boolean (flag : Bool)
  deriving DecidableEq

namespace PropType

def Has : PropType → Json → Prop
  | .string, value => ∃ text, value = .string text
  | .number, value => ∃ written, value = .number written
  | .boolean, value => ∃ flag, value = .bool flag

def value? : PropType → Json → Option PropValue
  | .string, .string text => some (.string text)
  | .number, .number written => some (.number written.toSingle)
  | .boolean, .bool flag => some (.boolean flag)
  | _, _ => none

theorem admits_iff {type : PropType} {value : Json} :
    type.admits value = true ↔ value = .null ∨ type.Has value := by
  cases type <;> cases value <;> simp [admits, Has]

end PropType

namespace Props

/-- What is given under the known names has the known types; a prop that is null counts as absent.
-/
def WellTyped (known : List (String × PropType)) (props : List (String × Json)) : Prop :=
  ∀ name type value, (name, type) ∈ known → (name, value) ∈ props → value ≠ .null →
    type.Has value

section

variable {known : List (String × PropType)} {props : List (String × Json)}

theorem lookup_iff_mem (once : (known.map Prod.fst).Nodup) {name : String} {type : PropType} :
    known.lookup name = some type ↔ (name, type) ∈ known := by
  induction known with
  | nil => simp
  | cons member rest ih =>
      obtain ⟨other, old⟩ := member
      obtain ⟨fresh, onceRest⟩ := List.nodup_cons.mp once
      rw [List.lookup_cons, List.mem_cons]
      by_cases same : name = other
      · subst same
        have absent : (name, type) ∉ rest := fun listed =>
          fresh (List.mem_map.mpr ⟨(name, type), listed, rfl⟩)
        simp [absent, eq_comm]
      · rw [beq_false_of_ne same, ih onceRest]
        simp [same]

/-- A fault is that of a prop that is known, given and of another type. -/
theorem wrong_of_fault? {cause : Json.Cause} (faulty : fault? known props = some cause) :
    ∃ name type value, known.lookup name = some type ∧ (name, value) ∈ props ∧
      type.admits value = false ∧ cause = .wrongType (.ofJson value) type.expected := by
  induction props with
  | nil => cases faulty
  | cons member rest ih =>
      have later (faulty : fault? known rest = some cause) :
          ∃ name type value, known.lookup name = some type ∧ (name, value) ∈ member :: rest ∧
            type.admits value = false ∧ cause = .wrongType (.ofJson value) type.expected := by
        obtain ⟨other, type, value, wanted, given, wrong, same⟩ := ih faulty
        exact ⟨other, type, value, wanted, List.mem_cons_of_mem _ given, wrong, same⟩
      obtain ⟨name, value⟩ := member
      rw [fault?] at faulty
      cases wanted : known.lookup name with
      | none =>
          rw [wanted] at faulty
          exact later faulty
      | some type =>
          rw [wanted] at faulty
          dsimp only at faulty
          split at faulty
          · exact later faulty
          · rename_i wrong
            refine ⟨name, type, value, wanted, List.mem_cons_self, ?_, ?_⟩
            · exact Bool.eq_false_iff.mpr wrong
            · exact (Option.some.inj faulty).symm

theorem admits_of_sound (sound : fault? known props = none) {name : String} {type : PropType}
    {value : Json} (wanted : known.lookup name = some type) (given : (name, value) ∈ props) :
    type.admits value = true := by
  induction props with
  | nil => cases given
  | cons member rest ih =>
      obtain ⟨other, old⟩ := member
      rw [fault?] at sound
      rcases List.mem_cons.mp given with first | later
      · cases first
        rw [wanted] at sound
        dsimp only at sound
        split at sound
        · assumption
        · cases sound
      · apply ih _ later
        cases listed : known.lookup other with
        | none =>
            rw [listed] at sound
            exact sound
        | some _ =>
            rw [listed] at sound
            dsimp only at sound
            split at sound
            · exact sound
            · cases sound

theorem sound_iff_wellTyped (once : (known.map Prod.fst).Nodup) :
    fault? known props = none ↔ WellTyped known props := by
  constructor
  · intro sound name type value listed given some
    have admitted := admits_of_sound sound ((lookup_iff_mem once).mpr listed) given
    exact (PropType.admits_iff.mp admitted).resolve_left some
  · intro typed
    cases faulty : fault? known props with
    | none => rfl
    | some cause =>
        obtain ⟨name, type, value, wanted, given, wrong, _⟩ := wrong_of_fault? faulty
        have admitted : type.admits value = true := by
          rw [PropType.admits_iff, or_iff_not_imp_left]
          exact typed name type value ((lookup_iff_mem once).mp wanted) given
        rw [wrong] at admitted
        cases admitted

end

section

variable (props : List (String × Json)) (name : String)

theorem map_string? :
    (string? props name).map PropValue.string =
      (props.lookup name).bind PropType.string.value? := by
  unfold string?
  cases props.lookup name with
  | none => rfl
  | some value => cases value <;> rfl

theorem map_number? :
    (number? props name).map PropValue.number =
      (props.lookup name).bind PropType.number.value? := by
  unfold number?
  cases props.lookup name with
  | none => rfl
  | some value => cases value <;> rfl

theorem map_boolean? :
    (boolean? props name).map PropValue.boolean =
      (props.lookup name).bind PropType.boolean.value? := by
  unfold boolean?
  cases props.lookup name with
  | none => rfl
  | some value => cases value <;> rfl

end

end Props

namespace Component

open Props

def fields (component : Component) : List (String × Option PropValue) :=
  let string (name : String) (value : Option String) := (name, value.map PropValue.string)
  let number (name : String) (value : Option Float32) := (name, value.map PropValue.number)
  let boolean (name : String) (value : Option Bool) := (name, value.map PropValue.boolean)
  match component with
  | .header props | .label props =>
      [string "text" props.text, string "textAlign" props.textAlign,
        string "fontWeight" props.fontWeight]
  | .linkText props =>
      [string "text" props.text, string "align" props.align, string "textAlign" props.textAlign,
        string "fontWeight" props.fontWeight]
  | .button props =>
      [string "label" props.label, string "color" props.color, string "icon" props.icon,
        string "svgData" props.svgData, string "width" props.width]
  | .socialButton props =>
      [string "provider" props.provider, string "label" props.label, string "icon" props.icon,
        string "svgData" props.svgData, string "width" props.width]
  | .textField props =>
      [string "label" props.label, string "placeholder" props.placeholder,
        string "icon" props.icon, string "svgData" props.svgData,
        string "endIcon" props.endIcon, string "endSvgData" props.endSvgData]
  | .checkbox props | .radioButton props | .switch props =>
      [string "label" props.label, boolean "checked" props.checked,
        string "groupName" props.groupName]
  | .image props =>
      [number "width" props.width, number "height" props.height, string "alt" props.alt,
        number "cornerRadius" props.cornerRadius, string "fit" props.fit]
  | .colorSwatch props =>
      [string "color" props.color, number "size" props.size, string "shape" props.shape,
        boolean "selected" props.selected]
  | .icon props =>
      [string "icon" props.icon, string "svgData" props.svgData, number "size" props.size,
        string "color" props.color]
  | .slider props => [number "value" props.value]
  | .placeholder props =>
      [number "width" props.width, number "height" props.height, string "label" props.label]
  | .row props =>
      [number "spacing" props.spacing, string "alignment" props.alignment,
        string "justify" props.justify]
  | .column props => [number "spacing" props.spacing, string "alignment" props.alignment]
  | .card props =>
      [number "padding" props.padding, number "spacing" props.spacing,
        string "backgroundColor" props.backgroundColor, boolean "hasBorder" props.hasBorder,
        boolean "hasShadow" props.hasShadow, string "alignment" props.alignment]
  | .unknown _ => []

/-- What a component of a kind should hold: under each name that the kind knows the value that is
given there, if it is of the type. -/
def wanted (kind : Kind) (props : List (String × Json)) : List (String × Option PropValue) :=
  kind.props.map fun (name, type) => (name, (props.lookup name).bind type.value?)

theorem fields_ofProps (kind : Kind) (props : List (String × Json)) :
    (ofProps kind props).fields = wanted kind props := by
  cases kind <;>
    simp only [wanted, Kind.props, List.map_cons, List.map_nil, ← map_string?, ← map_number?,
      ← map_boolean?] <;>
    rfl

theorem once_known (kind : Kind) : (kind.props.map Prod.fst).Nodup := by
  cases kind <;> decide

section

variable (entry : Entry) {kind : Kind}

theorem ofEntry_foreign (foreign : ∀ kind : Kind, kind.tag ≠ entry.tag) :
    ofEntry entry = .ok (.unknown entry.tag) := by
  cases named : Kind.ofTag? entry.tag with
  | none => simp only [ofEntry, named]
  | some kind => exact absurd (Kind.tag_of_ofTag? named) (foreign kind)

theorem ofEntry_typed (named : kind.tag = entry.tag) (typed : WellTyped kind.props entry.props) :
    ofEntry entry = .ok (ofProps kind entry.props) := by
  have known : Kind.ofTag? entry.tag = some kind := named ▸ Kind.ofTag?_tag kind
  have sound := (sound_iff_wellTyped (once_known kind)).mpr typed
  simp only [ofEntry, known, sound]

theorem ofEntry_mistyped (named : kind.tag = entry.tag)
    (mistyped : ¬ WellTyped kind.props entry.props) :
    ∃ name type value, (name, type) ∈ kind.props ∧ (name, value) ∈ entry.props ∧
      value ≠ .null ∧ ¬ type.Has value ∧
      ofEntry entry = .error ⟨entry.tag, .wrongType (.ofJson value) type.expected⟩ := by
  have known : Kind.ofTag? entry.tag = some kind := named ▸ Kind.ofTag?_tag kind
  have once := once_known kind
  cases faulty : fault? kind.props entry.props with
  | none => exact absurd ((sound_iff_wellTyped once).mp faulty) mistyped
  | some cause =>
      obtain ⟨name, type, value, listed, given, wrong, rfl⟩ := wrong_of_fault? faulty
      rw [← Bool.not_eq_true, PropType.admits_iff, not_or] at wrong
      refine ⟨name, type, value, (lookup_iff_mem once).mp listed, given, wrong.1, wrong.2, ?_⟩
      simp only [ofEntry, known, faulty]

theorem ofEntry_of_own {other : Entry} (tag : other.tag = entry.tag)
    (own : other.own = entry.own) : ofEntry other = ofEntry entry := by
  rw [← ofEntry_own other, ← ofEntry_own entry, tag, own]

theorem children_of_items {items : List Json}
    (listed : entry.props.lookup "children" = some (.array items)) : entry.children = items := by
  simp [Entry.children, listed, Json.array?]

theorem children_of_others
    (unlisted : ∀ items, entry.props.lookup "children" ≠ some (.array items)) :
    entry.children = [] := by
  unfold Entry.children
  cases found : entry.props.lookup "children" with
  | none => rfl
  | some value =>
      cases value with
      | array items => exact absurd found (unlisted items)
      | _ => rfl

end

/-- Every object with a text for a tag and an object of props is an entry. If no kind has the tag it
is read as it is, whatever its props. Otherwise it is read if and only if its props have the types
that the kind knows: what is read is of the kind and holds these props, and the error of any other
entry names its tag and one of the props at fault. What lies below it are the items of a list under
`children`, and none of them is looked at. -/
theorem ofEntry_exact {members props : List (String × Json)} {tag : String}
    (tagged : members.lookup "component" = some (.string tag))
    (given : members.lookup "props" = some (.object props)) :
    ∃ entry, Entry.ofJson? (.object members) = some entry ∧
      ((∀ kind : Kind, kind.tag ≠ tag) → ofEntry entry = .ok (.unknown tag)) ∧
      (∀ kind : Kind, kind.tag = tag →
        ((∃ component, ofEntry entry = .ok component ∧ component.kind? = some kind) ↔
          WellTyped kind.props props) ∧
        (∀ component, ofEntry entry = .ok component → component.fields = wanted kind props) ∧
        (¬ WellTyped kind.props props →
          ∃ name type value, (name, type) ∈ kind.props ∧ (name, value) ∈ props ∧
            value ≠ .null ∧ ¬ type.Has value ∧
            ofEntry entry = .error ⟨tag, .wrongType (.ofJson value) type.expected⟩)) ∧
      (∀ items, props.lookup "children" = some (.array items) → entry.children = items) ∧
      ((∀ items, props.lookup "children" ≠ some (.array items)) → entry.children = []) ∧
      ∀ other : Entry, other.tag = tag → other.own = entry.own →
        ofEntry other = ofEntry entry := by
  let entry : Entry := ⟨tag, props⟩
  have valid : Entry.ofJson? (.object members) = some entry :=
    Entry.ofJson?_eq_some_iff.mpr ⟨members, rfl, tagged, given⟩
  refine ⟨entry, valid, ofEntry_foreign entry, ?_, fun items => children_of_items entry,
    children_of_others entry, fun other => ofEntry_of_own entry⟩
  intro kind named
  have right := ofEntry_typed entry named
  have wrong := ofEntry_mistyped entry named
  refine ⟨⟨?_, fun typed => ⟨_, right typed, kind?_ofProps kind props⟩⟩, ?_, wrong⟩
  · rintro ⟨component, reads, _⟩
    by_contra mistyped
    obtain ⟨_, _, _, _, _, _, _, fails⟩ := wrong mistyped
    rw [reads] at fails
    cases fails
  · intro component reads
    by_cases typed : WellTyped kind.props props
    · rw [right typed] at reads
      cases reads
      exact fields_ofProps kind props
    · obtain ⟨_, _, _, _, _, _, _, fails⟩ := wrong typed
      rw [reads] at fails
      cases fails

/-- A row whose spacing is given and whose only child is no entry. -/
theorem ofEntry_exact_row :
    let props : List (String × Json) :=
      [("children", .array [.null]), ("justify", .null), ("spacing", .int 4), ("wrap", .bool true)]
    let members : List (String × Json) :=
      [("component", .string "Row"), ("props", .object props)]
    members.lookup "component" = some (.string "Row") ∧
      members.lookup "props" = some (.object props) ∧
      ∃ entry, Entry.ofJson? (.object members) = some entry ∧
        (∃ component, ofEntry entry = .ok component ∧ component.kind? = some .row) ∧
        (∀ component, ofEntry entry = .ok component →
          component.fields = [("spacing", some (.number (Binary.singleOfInt 4))),
            ("alignment", none), ("justify", none)]) ∧
        entry.children = [.null] := by
  intro props members
  have tagged : members.lookup "component" = some (.string "Row") := rfl
  have given : members.lookup "props" = some (.object props) := rfl
  have typed : WellTyped Kind.row.props props := (sound_iff_wellTyped (once_known .row)).mp rfl
  obtain ⟨entry, valid, _, known, below, _, _⟩ := ofEntry_exact tagged given
  obtain ⟨reads, holds, _⟩ := known .row rfl
  exact ⟨tagged, given, entry, valid, reads.mpr typed, holds, below _ rfl⟩

end Component

end Wireframe
