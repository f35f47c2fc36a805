import Wireframe.Proofs.Scene.Measure
import Wireframe.Render.Environment
/-!
What builds make. Numbers are taken in the order in which nodes are made, children before their
frame, so the nodes that lie ready have ascending numbers at every moment; none is missing unless an
attempt failed after it had made some. A build is described by the nodes that it uses up, the height
of what it makes from them and the record that it leaves.
-/

namespace Wireframe

/-- A record that notes no entry, at most icons whose markup is broken. -/
structure Diagnostics.Quiet (log : Diagnostics) : Prop where
  built : log.built = 0
  failures : log.failures = []
  unknownKinds : log.unknownKinds = []
  skipped : log.skipped = 0

namespace Diagnostics.Quiet

theorem empty : Quiet empty := ⟨rfl, rfl, rfl, rfl⟩

theorem vectorFailure (name : String) : Quiet (vectorFailure name) := ⟨rfl, rfl, rfl, rfl⟩

theorem append {first second : Diagnostics} (front : first.Quiet) (back : second.Quiet) :
    (first ++ second).Quiet := by
  constructor
  · rw [built_append, front.built, back.built]
  · rw [failures_append, front.failures, back.failures, List.append_nil]
  · rw [unknownKinds_append, front.unknownKinds, back.unknownKinds, List.append_nil]
  · rw [skipped_append, front.skipped, back.skipped]

end Diagnostics.Quiet

/-- These are numbers above `low` up to `high`, each higher than the one before; and they are all of
them unless there may be gaps. -/
structure Taken (gaps : Prop) (low high : Nat) (ids : List Nat) : Prop where
  ascending : ids.Pairwise (· < ·)
  range : ∀ id ∈ ids, low < id ∧ id ≤ high
  le : low ≤ high
  all : ¬ gaps → ids = List.range' (low + 1) (high - low)

namespace Taken

variable {gaps : Prop} {low high : Nat} {ids lost : List Nat}

theorem none (gaps : Prop) (lastId : Nat) : Taken gaps lastId lastId [] where
  ascending := .nil
  range := by simp
  le := Nat.le_refl lastId
  all := by simp

theorem next (taken : Taken gaps low high ids) : Taken gaps low (high + 1) (ids ++ [high + 1]) where
  ascending := by
    rw [List.pairwise_append]
    refine ⟨taken.ascending, List.pairwise_singleton _ _, ?_⟩
    intro id earlier new last
    rw [List.mem_singleton.mp last]
    exact Nat.lt_succ_of_le (taken.range id earlier).2
  range := by
    intro id member
    have le := taken.le
    rcases List.mem_append.mp member with earlier | last
    · have range := taken.range id earlier
      omega
    · rw [List.mem_singleton.mp last]
      omega
  le := Nat.le_succ_of_le taken.le
  all := by
    intro whole
    have le := taken.le
    have length : high + 1 - low = high - low + 1 := by omega
    have last : low + 1 + (high - low) = high + 1 := by omega
    rw [taken.all whole, length, List.range'_1_concat, last]

theorem drop (may : gaps) (taken : Taken gaps low high (ids ++ lost)) :
    Taken gaps low high ids where
  ascending := (List.pairwise_append.mp taken.ascending).1
  range id member := taken.range id (List.mem_append_left lost member)
  le := taken.le
  all whole := absurd may whole

theorem skip (le : low ≤ high) : Taken True low high [] where
  ascending := .nil
  range := by simp
  le := le
  all whole := absurd trivial whole

theorem append {middle : Nat} {more : List Nat} (front : Taken True low middle ids)
    (back : Taken True middle high more) : Taken True low high (ids ++ more) where
  ascending := by
    rw [List.pairwise_append]
    refine ⟨front.ascending, back.ascending, ?_⟩
    intro first early second late
    exact Nat.lt_of_le_of_lt (front.range first early).2 (back.range second late).1
  range := by
    intro id member
    have frontLe := front.le
    have backLe := back.le
    rcases List.mem_append.mp member with early | late
    · have range := front.range id early
      omega
    · have range := back.range id late
      omega
  le := Nat.le_trans front.le back.le
  all whole := absurd trivial whole

theorem loosen (taken : Taken gaps low high ids) : Taken True low high ids where
  ascending := taken.ascending
  range := taken.range
  le := taken.le
  all whole := absurd trivial whole

theorem eq_range (taken : Taken gaps low high ids) (whole : ¬ gaps) :
    ids = List.range' (low + 1) ids.length ∧ high = low + ids.length := by
  have all := taken.all whole
  have length : ids.length = high - low := by rw [all, List.length_range']
  have le := taken.le
  constructor
  · rw [length]
    exact all
  · omega

end Taken

class Assembly (α : Type) where
  nodes : α → List Node

open Assembly (nodes)

namespace Assembly

instance : Assembly Unit := ⟨fun _ => []⟩

instance : Assembly Node := ⟨fun node => [node]⟩

instance : Assembly (List Node) := ⟨fun nodes => nodes⟩

instance : Assembly (Option Node) := ⟨Option.toList⟩

instance : Assembly (List (Option Node)) := ⟨List.filterMap fun slot => slot⟩

@[simp] theorem nodes_unit (value : Unit) : nodes value = [] := rfl

@[simp] theorem nodes_node (node : Node) : nodes node = [node] := rfl

@[simp] theorem nodes_list (list : List Node) : nodes list = list := rfl

@[simp] theorem nodes_option (slot : Option Node) : nodes slot = slot.toList := rfl

@[simp] theorem nodes_slots_nil : nodes ([] : List (Option Node)) = [] := rfl

@[simp] theorem nodes_slots_cons (slot : Option Node) (rest : List (Option Node)) :
    nodes (slot :: rest) = slot.toList ++ nodes rest := by
  cases slot <;> rfl

end Assembly

variable {α β : Type} [Assembly α] [Assembly β]

/-- Whatever lies ready before them, the build uses up the nodes `used` and puts those of its value
in their place, no higher than `height`; it leaves such a record. -/
def Build.Makes (gaps : Prop) (record : Diagnostics → Prop) (height : Nat) (used : List Node)
    (build : Build α) : Prop :=
  ∀ low rest lastId, Taken gaps low lastId (rest ++ Node.idsOf used) →
    let made := build lastId
    record made.log ∧ Node.heightOf (nodes made.value) ≤ height ∧
      Taken gaps low made.lastId (rest ++ Node.idsOf (nodes made.value))

namespace Build.Makes

variable {gaps : Prop} {height inner : Nat} {used pending : List Node}
variable {kept first second : Diagnostics → Prop}

theorem pure {value : α} (same : Node.idsOf (nodes value) = Node.idsOf used)
    (low : Node.heightOf (nodes value) ≤ height) :
    Makes gaps Diagnostics.Quiet height used (Pure.pure value : Build α) := by
  intro floor rest lastId taken
  refine ⟨.empty, low, ?_⟩
  change Taken gaps floor lastId (rest ++ Node.idsOf (nodes value))
  rw [same]
  exact taken

/-- One build after the other; what was pending lies before what the first one makes. -/
theorem bindWith (joined : ∀ front back, first front → second back → kept (front ++ back))
    {build : Build α} {next : α → Build β} (makes : Makes gaps first inner used build)
    (rest : ∀ value, Node.heightOf (nodes value) ≤ inner →
      Makes gaps second height (pending ++ nodes value) (next value)) :
    Makes gaps kept height (pending ++ used) (build >>= next) := by
  intro floor before lastId taken
  rw [Node.idsOf_append, ← List.append_assoc] at taken
  obtain ⟨front, low, ready⟩ := makes floor (before ++ Node.idsOf pending) lastId taken
  rw [List.append_assoc, ← Node.idsOf_append] at ready
  obtain ⟨back, whole⟩ := rest _ low floor before _ ready
  rw [bind_apply]
  exact ⟨joined _ _ front back, whole⟩

theorem andThen (joined : ∀ front back, first front → second back → kept (front ++ back))
    {build : Build α} {next : α → Build β} (makes : Makes gaps first inner used build)
    (rest : ∀ value, Node.heightOf (nodes value) ≤ inner →
      Makes gaps second height (nodes value) (next value)) :
    Makes gaps kept height used (build >>= next) := by
  change Makes gaps kept height ([] ++ used) (build >>= next)
  exact bindWith joined makes rest

theorem bind {build : Build α} {next : α → Build β}
    (makes : Makes gaps Diagnostics.Quiet inner [] build)
    (rest : ∀ value, Node.heightOf (nodes value) ≤ inner →
      Makes gaps Diagnostics.Quiet height (pending ++ nodes value) (next value)) :
    Makes gaps Diagnostics.Quiet height pending (build >>= next) := by
  have whole := bindWith (fun _ _ front back => Diagnostics.Quiet.append front back) makes rest
  rwa [List.append_nil] at whole

theorem mono {bound : Nat} {build : Build α} (makes : Makes gaps kept inner used build)
    (le : inner ≤ bound) : Makes gaps kept bound used build := by
  intro floor rest lastId taken
  obtain ⟨noted, low, ready⟩ := makes floor rest lastId taken
  exact ⟨noted, Nat.le_trans low le, ready⟩

theorem weaken {build : Build α} (makes : Makes gaps first height used build)
    (weaker : ∀ log, first log → kept log) : Makes gaps kept height used build := by
  intro floor rest lastId taken
  obtain ⟨noted, made⟩ := makes floor rest lastId taken
  exact ⟨weaker _ noted, made⟩

theorem record {log : Diagnostics} (noted : kept log) :
    Makes gaps kept 0 [] (Build.record log) := by
  intro floor rest lastId taken
  exact ⟨noted, by simp, taken⟩

theorem leaf (name : String) (content : Leaf) :
    Makes gaps Diagnostics.Quiet 1 [] (Build.leaf name content) := by
  intro floor rest lastId taken
  refine ⟨Diagnostics.Quiet.empty.append .empty, ?_, ?_⟩
  · simp [Build.leaf, freshId, Bind.bind, Build.bind, Build.pure, Node.height]
  · rw [Node.idsOf_nil, List.append_nil] at taken
    simpa [Build.leaf, freshId, Bind.bind, Build.bind, Build.pure, Pure.pure, Node.ids,
      Node.Header.fresh] using taken.next

theorem frame (name : String) (content : Frame) {children : List Node}
    (low : Node.heightOf children ≤ inner) :
    Makes gaps Diagnostics.Quiet (inner + 1) children (Build.frame name content children) := by
  intro floor rest lastId taken
  refine ⟨Diagnostics.Quiet.empty.append .empty, ?_, ?_⟩
  · simpa [Build.frame, freshId, Bind.bind, Build.bind, Build.pure, Pure.pure, Node.height]
      using low
  · simpa [Build.frame, freshId, Bind.bind, Build.bind, Build.pure, Pure.pure, Node.ids_container,
      Node.Header.fresh] using taken.next

theorem framed {children : List Node} (same : Node.idsOf used = Node.idsOf children) (name : String)
    (content : Frame) (low : Node.heightOf children ≤ inner) {change : Node → Node}
    (ids : ∀ node, (change node).ids = node.ids)
    (heights : ∀ node, (change node).height = node.height) :
    Makes gaps Diagnostics.Quiet (inner + 1) used
      (Build.frame name content children >>= fun node => Pure.pure (change node)) := by
  have made : Makes gaps Diagnostics.Quiet (inner + 1) children
      (Build.frame name content children >>= fun node => Pure.pure (change node)) := by
    apply andThen (fun _ _ front back => Diagnostics.Quiet.append front back)
      (frame name content low)
    intro node high
    exact pure (by simp [ids]) (by simpa [heights] using high)
  intro floor rest lastId taken
  rw [same] at taken
  exact made floor rest lastId taken

end Build.Makes

/-- The same for attempts. One may fail only where there may be gaps, for want of a face; the nodes
that it was given and those that it has made are lost then. -/
def Attempt.Makes (gaps : Prop) (record : Diagnostics → Prop) (height : Nat) (used : List Node)
    (attempt : Attempt α) : Prop :=
  ∀ low rest lastId, Taken gaps low lastId (rest ++ Node.idsOf used) →
    let made := attempt.run lastId
    record made.log ∧
      match made.value with
      | .ok value =>
          Node.heightOf (nodes value) ≤ height ∧
            Taken gaps low made.lastId (rest ++ Node.idsOf (nodes value))
      | .error error =>
          gaps ∧ (∃ reason, error = .font reason) ∧ Taken gaps low made.lastId rest

namespace Attempt.Makes

variable {gaps : Prop} {height inner : Nat} {used pending : List Node}
variable {kept second : Diagnostics → Prop}

theorem pure {value : α} (same : Node.idsOf (nodes value) = Node.idsOf used)
    (low : Node.heightOf (nodes value) ≤ height) :
    Makes gaps Diagnostics.Quiet height used (Pure.pure value : Attempt α) := by
  intro floor rest lastId taken
  exact Build.Makes.pure same low floor rest lastId taken

theorem lift {build : Build α} (makes : Build.Makes gaps kept height used build) :
    Makes gaps kept height used (liftM build : Attempt α) := by
  intro floor rest lastId taken
  have made := makes floor rest lastId taken
  have log : ((liftM build : Attempt α).run lastId).log = (build lastId).log :=
    Diagnostics.append_empty _
  refine ⟨?_, made.2⟩
  rw [log]
  exact made.1

theorem bindWith (joined : ∀ front back, kept front → second back → kept (front ++ back))
    {attempt : Attempt α} {next : α → Attempt β} (makes : Makes gaps kept inner used attempt)
    (rest : ∀ value, Node.heightOf (nodes value) ≤ inner →
      Makes gaps second height (pending ++ nodes value) (next value)) :
    Makes gaps kept height (pending ++ used) (attempt >>= next) := by
  intro floor before lastId taken
  rw [Node.idsOf_append, ← List.append_assoc] at taken
  obtain ⟨front, ended⟩ := makes floor (before ++ Node.idsOf pending) lastId taken
  cases result : (attempt.run lastId).value with
  | ok value =>
      rw [result] at ended
      obtain ⟨low, ready⟩ := ended
      rw [List.append_assoc, ← Node.idsOf_append] at ready
      obtain ⟨back, whole⟩ := rest value low floor before _ ready
      rw [bind_ok next result]
      exact ⟨joined _ _ front back, whole⟩
  | error error =>
      rw [result] at ended
      obtain ⟨may, reason, ready⟩ := ended
      rw [bind_error next result]
      exact ⟨front, may, reason, ready.drop may⟩

theorem andThen (joined : ∀ front back, kept front → second back → kept (front ++ back))
    {attempt : Attempt α} {next : α → Attempt β} (makes : Makes gaps kept inner used attempt)
    (rest : ∀ value, Node.heightOf (nodes value) ≤ inner →
      Makes gaps second height (nodes value) (next value)) :
    Makes gaps kept height used (attempt >>= next) := by
  change Makes gaps kept height ([] ++ used) (attempt >>= next)
  exact bindWith joined makes rest

theorem bind {attempt : Attempt α} {next : α → Attempt β}
    (makes : Makes gaps Diagnostics.Quiet inner [] attempt)
    (rest : ∀ value, Node.heightOf (nodes value) ≤ inner →
      Makes gaps Diagnostics.Quiet height (pending ++ nodes value) (next value)) :
    Makes gaps Diagnostics.Quiet height pending (attempt >>= next) := by
  have whole := bindWith (fun _ _ front back => Diagnostics.Quiet.append front back) makes rest
  rwa [List.append_nil] at whole

theorem mono {bound : Nat} {attempt : Attempt α} (makes : Makes gaps kept inner used attempt)
    (le : inner ≤ bound) : Makes gaps kept bound used attempt := by
  intro floor rest lastId taken
  obtain ⟨noted, ended⟩ := makes floor rest lastId taken
  refine ⟨noted, ?_⟩
  cases result : (attempt.run lastId).value with
  | ok value =>
      rw [result] at ended
      exact ⟨Nat.le_trans ended.1 le, ended.2⟩
  | error error =>
      rw [result] at ended
      exact ended

theorem weaken {attempt : Attempt α} (makes : Makes gaps second height used attempt)
    (weaker : ∀ log, second log → kept log) : Makes gaps kept height used attempt := by
  intro floor rest lastId taken
  obtain ⟨noted, ended⟩ := makes floor rest lastId taken
  exact ⟨weaker _ noted, ended⟩

theorem map {attempt : Attempt α} (makes : Makes gaps Diagnostics.Quiet height used attempt)
    (change : α → β) (ids : ∀ value, Node.idsOf (nodes (change value)) = Node.idsOf (nodes value))
    (heights : ∀ value, Node.heightOf (nodes (change value)) = Node.heightOf (nodes value)) :
    Makes gaps Diagnostics.Quiet height used
      (attempt >>= fun value => Pure.pure (change value)) := by
  apply andThen (fun _ _ front back => Diagnostics.Quiet.append front back) makes
  intro value low
  exact pure (ids value) (Nat.le_trans (Nat.le_of_eq (heights value)) low)

theorem frame (pending : List Node) (inner : Nat) {children : List Node}
    (split : Node.idsOf used = Node.idsOf pending ++ Node.idsOf children) (name : String)
    (content : Frame) (low : Node.heightOf children ≤ inner) {next : Node → Attempt β}
    (rest : ∀ node : Node, node.height ≤ inner + 1 →
      Makes gaps Diagnostics.Quiet height (pending ++ [node]) (next node)) :
    Makes gaps Diagnostics.Quiet height used
      (liftM (Build.frame name content children) >>= next) := by
  have framed : Makes gaps Diagnostics.Quiet height (pending ++ children)
      (liftM (Build.frame name content children) >>= next) := by
    apply bindWith (fun _ _ front back => Diagnostics.Quiet.append front back)
      (lift (Build.Makes.frame name content low))
    intro node high
    exact rest node (by simpa using high)
  intro floor before lastId taken
  rw [split, ← Node.idsOf_append] at taken
  exact framed floor before lastId taken

theorem framed {children : List Node} (same : Node.idsOf used = Node.idsOf children) (name : String)
    (content : Frame) (low : Node.heightOf children ≤ inner) {change : Node → Node}
    (ids : ∀ node, (change node).ids = node.ids)
    (heights : ∀ node, (change node).height = node.height) :
    Makes gaps Diagnostics.Quiet (inner + 1) used
      (liftM (Build.frame name content children) >>= fun node => Pure.pure (change node)) := by
  apply frame [] inner same name content low
  intro node high
  exact pure (by simp [ids]) (by simpa [heights] using high)

/-- An attempt that is followed by one build when it succeeds and by another when it fails. -/
theorem recover {first : Diagnostics → Prop}
    (joined : ∀ front back, first front → second back → kept (front ++ back))
    {attempt : Attempt α} {next : Except BuildError α → Build β}
    (makes : Makes gaps first inner [] attempt)
    (made : ∀ value, Node.heightOf (nodes value) ≤ inner →
      Build.Makes gaps second height (nodes value) (next (.ok value)))
    (failed : ∀ reason, Build.Makes gaps second height [] (next (.error (.font reason)))) :
    Build.Makes gaps kept height [] (attempt.run >>= next) := by
  intro floor before lastId taken
  obtain ⟨front, ended⟩ := makes floor before lastId taken
  rw [Build.bind_apply]
  dsimp only
  cases result : (attempt.run lastId).value with
  | ok value =>
      rw [result] at ended
      obtain ⟨low, ready⟩ := ended
      obtain ⟨back, whole⟩ := made value low floor before _ ready
      exact ⟨joined _ _ front back, whole⟩
  | error error =>
      rw [result] at ended
      obtain ⟨_, ⟨reason, rfl⟩, ready⟩ := ended
      rw [← List.append_nil before, ← Node.idsOf_nil] at ready
      obtain ⟨back, whole⟩ := failed reason floor before _ ready
      exact ⟨joined _ _ front back, whole⟩

end Attempt.Makes

end Wireframe
