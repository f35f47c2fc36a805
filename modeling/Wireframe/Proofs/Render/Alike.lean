import Mathlib.Data.List.Forall2
import Wireframe.Proofs.Render.ContextFree
import Wireframe.Proofs.Render.Reliability
/-!
Inputs that render alike. An entry is rendered by its tag, its own props and what lies below it, so
two lists are rendered alike when their entries are, place by place, down to every entry that is
visited.
-/

namespace Wireframe

namespace Entry

def nests (entry : Entry) : Bool := (Kind.ofTag? entry.tag).any Kind.nests

def own (entry : Entry) : List (String × Json) :=
  entry.props.filter fun member => member.1 ≠ "children"

theorem nests_of_opens {limit depth : Nat} {entry : Entry}
    (opens : entry.opens limit depth = true) : entry.nests = true := by
  unfold Entry.opens at opens
  obtain ⟨_, nesting⟩ := Bool.and_eq_true_iff.mp opens
  cases reads : Component.ofEntry entry with
  | error error =>
      rw [reads] at nesting
      cases nesting
  | ok component =>
      rw [reads] at nesting
      rw [nests, ← Component.kind?_ofEntry reads]
      exact nesting

end Entry

namespace Component

open Props

section

variable (props : List (String × Json))

theorem ofProps_header :
    ofProps .header props =
      .header ⟨string? props "text", string? props "textAlign", string? props "fontWeight"⟩ := rfl

theorem ofProps_label :
    ofProps .label props =
      .label ⟨string? props "text", string? props "textAlign", string? props "fontWeight"⟩ := rfl

theorem ofProps_checkbox :
    ofProps .checkbox props =
      .checkbox ⟨string? props "label", boolean? props "checked", string? props "groupName"⟩ := rfl

theorem ofProps_radioButton :
    ofProps .radioButton props =
      .radioButton ⟨string? props "label", boolean? props "checked", string? props "groupName"⟩ :=
  rfl

theorem ofProps_switch :
    ofProps .switch props =
      .switch ⟨string? props "label", boolean? props "checked", string? props "groupName"⟩ := rfl

end

end Component

namespace Props

variable {props : List (String × Json)} {keep : String × Json → Bool}

theorem fault?_filter {known : List (String × PropType)}
    (idle : ∀ member ∈ props, keep member = false →
      known.lookup member.1 = none ∨ member.2 = .null) :
    fault? known (props.filter keep) = fault? known props := by
  induction props with
  | nil => rfl
  | cons member rest ih =>
      have rest := ih fun other inside => idle other (List.mem_cons_of_mem _ inside)
      obtain ⟨name, value⟩ := member
      by_cases kept : keep (name, value) = true
      · rw [List.filter_cons_of_pos kept]
        simp only [fault?, rest]
      · rw [List.filter_cons_of_neg kept, rest]
        rcases idle (name, value) List.mem_cons_self (Bool.eq_false_iff.mpr kept) with
          unknown | absent
        · simp only [fault?, unknown]
        · have null : value = .null := absent
          subst null
          cases type : known.lookup name with
          | none => simp only [fault?, type]
          | some type => simp [fault?, type, PropType.admits]

theorem lookup_filter_name (keep : String → Bool) {name : String} (kept : keep name = true) :
    (props.filter fun member => keep member.1).lookup name = props.lookup name := by
  induction props with
  | nil => rfl
  | cons member rest ih =>
      obtain ⟨other, value⟩ := member
      by_cases same : name = other
      · subst same
        rw [List.filter_cons_of_pos (by exact kept), List.lookup_cons_self, List.lookup_cons_self]
      · have differs : (name == other) = false := beq_false_of_ne same
        by_cases stays : keep other = true
        · rw [List.filter_cons_of_pos (by exact stays), List.lookup_cons, List.lookup_cons,
            differs]
          exact ih
        · rw [List.filter_cons_of_neg (by exact stays), List.lookup_cons, differs]
          exact ih

structure Agree (props other : List (String × Json)) (name : String) : Prop where
  string : string? other name = string? props name
  number : number? other name = number? props name
  boolean : boolean? other name = boolean? props name

theorem Agree.of_lookup {other : List (String × Json)} {name : String}
    (same : other.lookup name = props.lookup name) : Agree props other name := by
  constructor
  · rw [string?, string?, same]
  · rw [number?, number?, same]
  · rw [boolean?, boolean?, same]

theorem ofProps_congr {kind : Kind} {other : List (String × Json)}
    (agree : ∀ name ∈ kind.props.map Prod.fst, Agree props other name) :
    Component.ofProps kind other = Component.ofProps kind props := by
  have string (name : String) (known : name ∈ kind.props.map Prod.fst) :=
    (agree name known).string
  have number (name : String) (known : name ∈ kind.props.map Prod.fst) :=
    (agree name known).number
  have boolean (name : String) (known : name ∈ kind.props.map Prod.fst) :=
    (agree name known).boolean
  cases kind
  case header => simp [Component.ofProps_header, Kind.props, string]
  case label => simp [Component.ofProps_label, Kind.props, string]
  case checkbox => simp [Component.ofProps_checkbox, Kind.props, string, boolean]
  case radioButton => simp [Component.ofProps_radioButton, Kind.props, string, boolean]
  case switch => simp [Component.ofProps_switch, Kind.props, string, boolean]
  all_goals simp [Component.ofProps, Kind.props, string, number, boolean]

end Props

namespace Component

open Props

theorem ofEntry_congr {tag : String} {props other : List (String × Json)}
    (same : ∀ kind, Kind.ofTag? tag = some kind →
      fault? kind.props other = fault? kind.props props ∧ ofProps kind other = ofProps kind props) :
    ofEntry ⟨tag, other⟩ = ofEntry ⟨tag, props⟩ := by
  unfold ofEntry
  cases known : Kind.ofTag? tag with
  | none => rfl
  | some kind =>
      obtain ⟨sameFault, sameRead⟩ := same kind known
      simp only [sameFault, sameRead]

theorem ofEntry_own (read : Entry) : ofEntry ⟨read.tag, read.own⟩ = ofEntry read := by
  apply ofEntry_congr
  intro kind _
  have unknown : kind.props.lookup "children" = none := by cases kind <;> rfl
  constructor
  · apply Props.fault?_filter
    intro member _ dropped
    have named : member.1 = "children" := by simpa using dropped
    rw [named]
    exact Or.inl unknown
  · apply Props.ofProps_congr
    intro name known
    have kept : name ≠ "children" := by
      rintro rfl
      obtain ⟨member, listed, named⟩ := List.mem_map.mp known
      have absent := List.lookup_eq_none_iff.mp unknown member listed
      simp [named] at absent
    apply Props.Agree.of_lookup
    apply Props.lookup_filter_name fun name => name ≠ "children"
    simpa using kept

end Component

/-- Neither value counts as an entry, or both do and are related, and so is what lies below them,
place by place, if the first nests others. -/
inductive Json.Alike (related : Entry → Entry → Prop) : Json → Json → Prop
  | invalid {value other : Json} (uncounted : Entry.ofJson? value = none)
      (otherUncounted : Entry.ofJson? other = none) : Alike related value other
  | entry {value other : Json} {read otherRead : Entry} (valid : Entry.ofJson? value = some read)
      (otherValid : Entry.ofJson? other = some otherRead) (same : related read otherRead)
      (below : read.nests = true →
        List.Forall₂ (Alike related) read.children otherRead.children) : Alike related value other

namespace Render

variable {env otherEnv : Environment} {depth : Nat}

/-- Two entries are rendered alike, each in its environment, wherever they stand and with whatever
below them. -/
def Same (env otherEnv : Environment) (read other : Entry) : Prop :=
  ∀ depth below, entry env depth read below = entry otherEnv depth other below

/-- Entries of one tag that are read as components of one record and node are rendered alike.
Reading them takes no catalog, nor does the text in the place of one that cannot be built. -/
theorem Same.of_reads {read other : Entry} (catalog : Catalog) (sameTag : other.tag = read.tag)
    (reads : ∀ below, (Component.ofEntry other).map (recorded { env with catalog } below) =
      (Component.ofEntry read).map (recorded env below)) :
    Same env { env with catalog } read other := by
  intro depth below
  have attempts :
      attempt { env with catalog } depth other below = attempt env depth read below := by
    have reads := reads below
    unfold attempt
    cases ofRead : Component.ofEntry read with
    | error error =>
        cases ofOther : Component.ofEntry other with
        | error otherError =>
            rw [ofRead, ofOther] at reads
            cases reads
            rfl
        | ok component =>
            rw [ofRead, ofOther] at reads
            cases reads
    | ok component =>
        cases ofOther : Component.ofEntry other with
        | error otherError =>
            rw [ofRead, ofOther] at reads
            cases reads
        | ok otherComponent =>
            rw [ofRead, ofOther] at reads
            simp only [Except.ok.inj reads]
  unfold entry
  rw [attempts, sameTag]
  rfl

theorem notice_catalog (env : Environment) (catalog : Catalog) :
    Environment.notice { env with catalog } = env.notice := rfl

theorem recorded_unknown_catalog (catalog : Catalog) (below : Build (List Node)) (tag : String) :
    recorded { env with catalog } below (.unknown tag) = recorded env below (.unknown tag) := by
  simp only [recorded, component, notice_catalog]

theorem Same.of_own {read other : Entry} (catalog : Catalog) (sameTag : other.tag = read.tag)
    (props : ∀ kind, Kind.ofTag? read.tag = some kind →
      Props.fault? kind.props other.own = Props.fault? kind.props read.own ∧
        (Props.fault? kind.props read.own = none → ∀ below,
          component { env with catalog } below (.ofProps kind other.own) =
            component env below (.ofProps kind read.own))) :
    Same env { env with catalog } read other := by
  apply Same.of_reads catalog sameTag
  intro below
  rw [← Component.ofEntry_own read, ← Component.ofEntry_own other, sameTag]
  cases named : Kind.ofTag? read.tag with
  | none => simp only [Component.ofEntry, named, Except.map, recorded_unknown_catalog]
  | some kind =>
      obtain ⟨sameFault, sameComponent⟩ := props kind named
      simp only [Component.ofEntry, named, sameFault]
      cases faulty : Props.fault? kind.props read.own with
      | some cause => simp only [Except.map]
      | none =>
          simp only [Except.map, Except.ok.injEq]
          rw [recorded_known (Component.kind?_ofProps kind _),
            recorded_known (Component.kind?_ofProps kind _), sameComponent faulty]

/-- What lies below an entry that does not open is not rendered. -/
theorem attempt_closed {read : Entry} (closed : read.opens env.config.maxDepth depth = false)
    (below other : Build (List Node)) :
    attempt env depth read below = attempt env depth read other := by
  unfold attempt
  split
  · rfl
  · rename_i shallow
    cases reads : Component.ofEntry read with
    | error error => rfl
    | ok component =>
        have single : component.kind?.any Kind.nests = false := by
          simpa [Entry.opens, reads, Nat.not_lt.mp shallow] using closed
        have alone : Render.component env below component = Render.component env other component :=
          (component_alone below single).trans (component_alone other single).symm
        simp only [recorded, alone]

theorem entry_closed {read : Entry} (closed : read.opens env.config.maxDepth depth = false)
    (below other : Build (List Node)) :
    entry env depth read below = entry env depth read other := by
  unfold entry
  rw [attempt_closed closed below other]

/-- If related entries are rendered alike then so are lists that are alike. By induction on what is
visited of the first. -/
theorem trees_alike {related : Entry → Entry → Prop}
    (same : ∀ read other, related read other → Same env otherEnv read other) (depth : Nat)
    {values others : List Json} (alike : List.Forall₂ (Json.Alike related) values others) :
    trees env depth (Tree.ofList values) = trees otherEnv depth (Tree.ofList others) := by
  fun_induction Visit.all env.config.maxDepth depth values generalizing others with
  | case1 depth =>
      cases alike
      rfl
  | case2 depth value rest invalid ih =>
      cases alike with
      | cons first others =>
          cases first with
          | invalid _ otherInvalid =>
              simp only [Tree.ofList, Tree.ofJson_invalid invalid,
                Tree.ofJson_invalid otherInvalid, trees, tree, ih others]
          | entry valid => cases invalid.symm.trans valid
  | case3 depth value rest read valid _ below ih =>
      cases alike with
      | cons first others =>
          cases first with
          | invalid invalid => cases invalid.symm.trans valid
          | entry found otherValid related inside =>
              cases Option.some.inj (found.symm.trans valid)
              simp only [Tree.ofList, Tree.ofJson_entry valid, Tree.ofJson_entry otherValid, trees,
                tree, ih others]
              rw [← same _ _ related]
              -- Below an entry that does not open the lists may differ; nothing there is rendered.
              cases opens : read.opens env.config.maxDepth depth with
              | true => rw [below (inside (Entry.nests_of_opens opens))]
              | false => rw [entry_closed opens]

/-- If every entry that is visited is rendered alike then so is the list. -/
theorem trees_visited {values : List Json}
    (same : ∀ visit ∈ Visit.all env.config.maxDepth depth values, ∀ read,
      visit.entry = some read → Same env otherEnv read read) :
    trees env depth (Tree.ofList values) = trees otherEnv depth (Tree.ofList values) := by
  fun_induction Visit.all env.config.maxDepth depth values with
  | case1 depth => rfl
  | case2 depth value rest invalid ih =>
      have others := ih fun visit inside => same visit (List.mem_cons_of_mem _ inside)
      simp only [Tree.ofList, Tree.ofJson_invalid invalid, trees, tree, others]
  | case3 depth value rest read valid _ below ih =>
      have others := ih fun visit inside =>
        same visit (List.mem_cons_of_mem _ (List.mem_append_right _ inside))
      have first := same ⟨depth, some read⟩ List.mem_cons_self read rfl depth
      simp only [Tree.ofList, Tree.ofJson_entry valid, trees, tree, others]
      rw [← first]
      cases opens : read.opens env.config.maxDepth depth with
      | false => rw [entry_closed opens]
      | true =>
          rw [below fun visit inside => same visit (List.mem_cons_of_mem _ ?_)]
          rw [if_pos opens]
          exact List.mem_append_left _ inside

end Render

/-- Lists that are alike have the same nodes under the same numbers and leave the same record. -/
theorem Renderer.tree_alike {env otherEnv : Environment} {related : Entry → Entry → Prop}
    (same : ∀ read other, related read other → Render.Same env otherEnv read other)
    {values others : List Json} (alike : List.Forall₂ (Json.Alike related) values others)
    (renderer : Renderer) :
    renderer.tree env (.array values) = renderer.tree otherEnv (.array others) := by
  rw [tree_array, tree_array, entries, entries, Render.trees_alike same 0 alike]

end Wireframe
