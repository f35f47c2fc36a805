import Wireframe.Render.Renderer

namespace Wireframe

namespace Node

def Header.raise (shift : Nat) (header : Header) : Header := { header with id := header.id + shift }

mutual

def raise (shift : Nat) : Node → Node
  | .leaf header content => .leaf (header.raise shift) content
  | .container header frame children =>
      .container (header.raise shift) frame (raiseAll shift children)

def raiseAll (shift : Nat) : List Node → List Node
  | [] => []
  | node :: rest => node.raise shift :: raiseAll shift rest

end

theorem raiseAll_eq_map (shift : Nat) (nodes : List Node) :
    raiseAll shift nodes = nodes.map (raise shift) := by
  induction nodes with
  | nil => rfl
  | cons node rest ih => rw [raiseAll, ih, List.map_cons]

theorem raise_mapHeader (shift : Nat) (change : Header → Header)
    (apart : ∀ header : Header, (change header).raise shift = change (header.raise shift))
    (node : Node) : (node.mapHeader change).raise shift = (node.raise shift).mapHeader change := by
  cases node with
  | leaf header content => simp only [raise, mapHeader, apart]
  | container header frame children => simp only [raise, mapHeader, apart]

@[simp] theorem raise_rename (shift : Nat) (name : String) (node : Node) :
    (node.rename name).raise shift = (node.raise shift).rename name := by
  apply raise_mapHeader
  intro header
  rfl

@[simp] theorem raise_withAlign (shift : Nat) (layoutAlign : LayoutAlign) (node : Node) :
    (node.withAlign layoutAlign).raise shift = (node.raise shift).withAlign layoutAlign := by
  apply raise_mapHeader
  intro header
  rfl

@[simp] theorem raise_withGrow (shift : Nat) (layoutGrow : Float32) (node : Node) :
    (node.withGrow layoutGrow).raise shift = (node.raise shift).withGrow layoutGrow := by
  apply raise_mapHeader
  intro header
  rfl

@[simp] theorem raise_withPosition (shift : Nat) (position : Option Point) (node : Node) :
    (node.withPosition position).raise shift = (node.raise shift).withPosition position := by
  apply raise_mapHeader
  intro header
  rfl

@[simp] theorem raise_mapText (shift : Nat) (change : Text.Run → Text.Run) (node : Node) :
    (node.mapText change).raise shift = (node.raise shift).mapText change := by
  cases node with
  | leaf header content => cases content <;> rfl
  | container header frame children => rfl

@[simp] theorem name_raise (shift : Nat) (node : Node) : (node.raise shift).name = node.name := by
  cases node <;> rfl

end Node

class Numbered (α : Type) where
  raise : Nat → α → α

namespace Numbered

variable {α : Type}

instance : Numbered Unit := ⟨fun _ value => value⟩

instance : Numbered Node := ⟨Node.raise⟩

instance [Numbered α] : Numbered (List α) := ⟨fun shift => List.map (raise shift)⟩

instance [Numbered α] : Numbered (Option α) := ⟨fun shift => Option.map (raise shift)⟩

instance {ε : Type} [Numbered α] : Numbered (Except ε α) := ⟨fun shift => Except.map (raise shift)⟩

@[simp] theorem raise_node (shift : Nat) (node : Node) : raise shift node = node.raise shift := rfl

@[simp] theorem raise_list [Numbered α] (shift : Nat) (items : List α) :
    raise shift items = items.map (raise shift) := rfl

@[simp] theorem raise_option [Numbered α] (shift : Nat) (item : Option α) :
    raise shift item = item.map (raise shift) := rfl

end Numbered

open Numbered (raise)

def Built.raise {α : Type} [Numbered α] (shift : Nat) (built : Built α) : Built α :=
  ⟨Numbered.raise shift built.value, built.log, built.lastId + shift⟩

namespace Build

variable {α β : Type} [Numbered α] [Numbered β] {shift : Nat}

/-- From a number higher by `shift`, `second` does what `first` does, with higher numbers. -/
def Shifted (shift : Nat) (first second : Build α) : Prop :=
  ∀ lastId, second (lastId + shift) = (first lastId).raise shift

namespace Shifted

theorem pure {value raised : α} (same : raise shift value = raised) :
    Shifted shift (Pure.pure value : Build α) (Pure.pure raised) := by
  intro lastId
  rw [← same]
  rfl

theorem bind {first second : Build α} {next continued : α → Build β}
    (build : Shifted shift first second)
    (rest : ∀ value, Shifted shift (next value) (continued (raise shift value))) :
    Shifted shift (first >>= next) (second >>= continued) := by
  intro lastId
  change Build.bind second continued (lastId + shift) = (Build.bind first next lastId).raise shift
  have tail := rest (first lastId).value (first lastId).lastId
  simp only [Build.bind, build lastId, Built.raise] at tail ⊢
  rw [tail]

theorem record (log : Diagnostics) : Shifted shift (record log) (record log) := by
  intro lastId
  rfl

theorem leaf (name : String) (content : Leaf) :
    Shifted shift (leaf name content) (leaf name content) := by
  intro lastId
  simp [Build.leaf, freshId, Bind.bind, Build.bind, Build.pure, Built.raise, Node.raise,
    Node.Header.raise, Node.Header.fresh, Nat.add_right_comm]

theorem frame (name : String) (content : Frame) {children raised : List Node}
    (same : raise shift children = raised) :
    Shifted shift (frame name content children) (frame name content raised) := by
  intro lastId
  rw [← same]
  simp [Build.frame, freshId, Bind.bind, Build.bind, Build.pure, Built.raise, Node.raise,
    Node.Header.raise, Node.Header.fresh, Nat.add_right_comm, Node.raiseAll_eq_map]

end Shifted

end Build

namespace Attempt

variable {α β : Type} [Numbered α] [Numbered β] {shift : Nat}

def Shifted (shift : Nat) (first second : Attempt α) : Prop :=
  Build.Shifted shift first.run second.run

namespace Shifted

theorem pure {value raised : α} (same : raise shift value = raised) :
    Shifted shift (Pure.pure value : Attempt α) (Pure.pure raised) := by
  intro lastId
  rw [← same]
  rfl

theorem throw (error : BuildError) : Shifted shift (throw error : Attempt α) (throw error) := by
  intro lastId
  rfl

theorem bind {first second : Attempt α} {next continued : α → Attempt β}
    (attempt : Shifted shift first second)
    (rest : ∀ value, Shifted shift (next value) (continued (raise shift value))) :
    Shifted shift (first >>= next) (second >>= continued) := by
  apply Build.Shifted.bind attempt
  intro result
  cases result with
  | error error =>
      intro lastId
      rfl
  | ok value => exact rest value

theorem lift {first second : Build α} (build : Build.Shifted shift first second) :
    Shifted shift (liftM first : Attempt α) (liftM second) := by
  apply Build.Shifted.bind build
  intro value lastId
  rfl

theorem map {first second : Attempt α} {change : α → β} (attempt : Shifted shift first second)
    (apart : ∀ value, raise shift (change value) = change (raise shift value)) :
    Shifted shift (first >>= fun value => Pure.pure (change value))
      (second >>= fun value => Pure.pure (change value)) := by
  apply bind attempt
  intro value
  exact pure (apart value)

end Shifted

end Attempt

end Wireframe
