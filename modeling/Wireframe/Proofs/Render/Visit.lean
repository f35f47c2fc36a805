import Wireframe.Component.Tree
import Wireframe.Render.Environment

namespace Wireframe

namespace Json

theorem sizeOf_lookup_lt {members : List (String × Json)} {key : String} {value : Json}
    (found : members.lookup key = some value) : sizeOf value < sizeOf members := by
  induction members with
  | nil => cases found
  | cons member rest ih =>
      obtain ⟨name, first⟩ := member
      rw [List.lookup_cons] at found
      simp only [List.cons.sizeOf_spec, Prod.mk.sizeOf_spec]
      split at found
      · cases Option.some.inj found
        omega
      · have inside := ih found
        omega

end Json

theorem Entry.sizeOf_children_lt {value : Json} {entry : Entry}
    (valid : Entry.ofJson? value = some entry) : sizeOf entry.children < sizeOf value := by
  obtain ⟨members, rfl, _, hasProps⟩ := Entry.ofJson?_eq_some_iff.mp valid
  have outer := Json.sizeOf_lookup_lt hasProps
  simp only [Json.object.sizeOf_spec] at outer ⊢
  unfold Entry.children
  cases listed : entry.props.lookup "children" with
  | none =>
      simp only [Option.bind_none, Option.getD_none, List.nil.sizeOf_spec]
      omega
  | some children =>
      have deeper := Json.sizeOf_lookup_lt listed
      cases children with
      | array items =>
          simp only [Json.array.sizeOf_spec] at deeper
          simp only [Option.bind_some, Json.array?, Option.getD_some]
          omega
      | _ =>
          simp only [Option.bind_some, Json.array?, Option.getD_none, List.nil.sizeOf_spec]
          omega

/-- Something that rendering comes to: how many containers are around it, and what it is read as;
nothing if it does not count as an entry. -/
structure Visit where
  depth : Nat
  entry : Option Entry

/-- Whether the entries below an entry are visited: it is a row, column or card within the depth
limit, and its props have the right types. -/
def Entry.opens (limit depth : Nat) (entry : Entry) : Bool :=
  decide (depth ≤ limit) &&
    match Component.ofEntry entry with
    | .ok component => component.kind?.any Kind.nests
    | .error _ => false

def Vector.parses (markup : String) : Bool := (Vector.ofMarkup? markup .zero).isSome

def IconRef.error? (icons : IconProvider) (icon : IconRef) : Option BuildError :=
  match icon.markup? icons with
  | none => some (.missingIcon icon.label)
  | some markup => if Vector.parses markup then none else some (.invalidMarkup icon.label)

def Component.error? (icons : IconProvider) : Component → Option BuildError
  | .icon props => IconRef.error? icons ⟨some (props.icon.getD "icon"), props.svgData⟩
  | _ => none

/-- Why an entry is not built: it is too deep, its props have wrong types, or it is an icon without
markup that can be drawn. -/
def Entry.error? (env : Environment) (depth : Nat) (entry : Entry) : Option BuildError :=
  if env.config.maxDepth < depth then some (.depthExceeded env.config.maxDepth)
  else
    match Component.ofEntry entry with
    | .error error => some (.invalidProps error)
    | .ok component => component.error? env.icons

/-- Of components whose props have the right types only an icon can be wrong. -/
theorem Component.eq_icon_of_error {icons : IconProvider} {component : Component}
    {error : BuildError} (wrong : component.error? icons = some error) :
    ∃ props, component = .icon props := by
  cases component with
  | icon props => exact ⟨props, rfl⟩
  | _ => cases wrong

namespace Entry

variable {env : Environment} {depth : Nat} {entry : Entry}

theorem error?_cases (env : Environment) (depth : Nat) (entry : Entry) :
    (env.config.maxDepth < depth ∧
      entry.error? env depth = some (.depthExceeded env.config.maxDepth)) ∨
    (depth ≤ env.config.maxDepth ∧ ∃ error, Component.ofEntry entry = .error error ∧
      entry.error? env depth = some (.invalidProps error)) ∨
    (depth ≤ env.config.maxDepth ∧ ∃ component, Component.ofEntry entry = .ok component ∧
      entry.error? env depth = component.error? env.icons) := by
  unfold error?
  by_cases deep : env.config.maxDepth < depth
  · exact Or.inl ⟨deep, if_pos deep⟩
  · have shallow := Nat.not_lt.mp deep
    rw [if_neg deep]
    cases reads : Component.ofEntry entry with
    | error error => exact Or.inr (Or.inl ⟨shallow, error, rfl, rfl⟩)
    | ok component => exact Or.inr (Or.inr ⟨shallow, component, rfl, rfl⟩)

theorem reads_unknown (unknown : Kind.ofTag? entry.tag = none) :
    Component.ofEntry entry = .ok (.unknown entry.tag) := by
  unfold Component.ofEntry
  rw [unknown]

theorem error?_unknown (shallow : depth ≤ env.config.maxDepth)
    (unknown : Kind.ofTag? entry.tag = none) : entry.error? env depth = none := by
  unfold error?
  rw [if_neg (Nat.not_lt.mpr shallow), reads_unknown unknown]
  rfl

theorem reads_of_sound (sound : entry.error? env depth = none) :
    ∃ component, depth ≤ env.config.maxDepth ∧ Component.ofEntry entry = .ok component ∧
      component.error? env.icons = none ∧
      entry.opens env.config.maxDepth depth = component.kind?.any Kind.nests := by
  rcases entry.error?_cases env depth with
    ⟨_, wrong⟩ | ⟨_, _, _, wrong⟩ | ⟨shallow, component, reads, same⟩
  · cases sound.symm.trans wrong
  · cases sound.symm.trans wrong
  · refine ⟨component, shallow, reads, same.symm.trans sound, ?_⟩
    simp [opens, shallow, reads]

theorem opens_of_error {error : BuildError} (wrong : entry.error? env depth = some error) :
    entry.opens env.config.maxDepth depth = false := by
  unfold opens
  rcases entry.error?_cases env depth with
    ⟨deep, _⟩ | ⟨_, mistyped, reads, _⟩ | ⟨_, component, reads, same⟩
  · rw [decide_eq_false (Nat.not_le.mpr deep), Bool.false_and]
  · simp [reads]
  · obtain ⟨props, rfl⟩ := Component.eq_icon_of_error (same.symm.trans wrong)
    simp [reads, Component.kind?, Kind.nests]

end Entry

namespace Visit

def all (limit depth : Nat) (values : List Json) : List Visit :=
  match values with
  | [] => []
  | value :: rest =>
      match valid : Entry.ofJson? value with
      | none => ⟨depth, none⟩ :: all limit depth rest
      | some entry =>
          have := Entry.sizeOf_children_lt valid
          ⟨depth, some entry⟩ ::
            (if entry.opens limit depth then all limit (depth + 1) entry.children else []) ++
            all limit depth rest
termination_by sizeOf values
decreasing_by
  all_goals
    simp only [List.cons.sizeOf_spec]
    omega

variable (env : Environment) (visit : Visit)

def isSkipped : Bool := visit.entry.isNone

def unknownTag? : Option String := do
  let entry ← visit.entry
  if visit.depth ≤ env.config.maxDepth ∧ Kind.ofTag? entry.tag = none then some entry.tag else none

def failure? : Option BuildFailure := do
  let entry ← visit.entry
  let error ← entry.error? env visit.depth
  some ⟨entry.tag, error⟩

def isBuilt : Bool :=
  !visit.isSkipped && (visit.unknownTag? env).isNone && (visit.failure? env).isNone

variable {env : Environment} {visit : Visit}

/-- An entry of an unknown kind is no failure as well. -/
theorem failure?_of_unknown {tag : String} (unknown : visit.unknownTag? env = some tag) :
    visit.failure? env = none := by
  obtain ⟨depth, _ | entry⟩ := visit
  · cases unknown
  · simp only [unknownTag?, Option.bind_eq_bind, Option.bind_some, Option.ite_none_right_eq_some]
      at unknown
    obtain ⟨⟨shallow, noKind⟩, _⟩ := unknown
    simp [failure?, Entry.error?_unknown shallow noKind]

/-- The four sorts take up all visits, each once. -/
theorem length_sorts (env : Environment) (visits : List Visit) :
    visits.countP (isBuilt env) + (visits.filterMap (failure? env)).length +
      (visits.filterMap (unknownTag? env)).length + visits.countP isSkipped = visits.length := by
  induction visits with
  | nil => rfl
  | cons visit rest ih =>
      rw [List.countP_cons, List.countP_cons, List.filterMap_cons, List.filterMap_cons,
        List.length_cons, ← ih]
      cases present : visit.entry with
      | none =>
          simp [isBuilt, isSkipped, unknownTag?, failure?, present]
          omega
      | some entry =>
          -- An unknown kind is no failure, so the remaining sorts are told apart in this order.
          have counts : visit.isSkipped = false := by simp [isSkipped, present]
          cases unknown : visit.unknownTag? env with
          | some tag =>
              simp [isBuilt, counts, unknown, failure?_of_unknown unknown]
              omega
          | none =>
              cases failed : visit.failure? env with
              | some failure =>
                  simp [isBuilt, counts, unknown, failed]
                  omega
              | none =>
                  simp [isBuilt, counts, unknown, failed]
                  omega

end Visit

end Wireframe
