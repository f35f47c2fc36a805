import Wireframe.Render.Diagnostics
import Wireframe.Scene.Node
/-!
Building numbers the nodes it makes and keeps a record of what happens. A build is given the last
number in use and gives back a value, its own part of the record and the last number in use after
it, so it can neither see nor change what was recorded before. An attempt is a build that may fail;
what it had recorded and numbered by then stays.
-/

namespace Wireframe

structure Built (α : Type) where
  value : α
  log : Diagnostics
  lastId : Nat

def Build (α : Type) : Type := Nat → Built α

namespace Build

variable {α β : Type}

def pure (value : α) : Build α := fun lastId => ⟨value, .empty, lastId⟩

def bind (build : Build α) (next : α → Build β) : Build β := fun lastId =>
  let first := build lastId
  let second := next first.value first.lastId
  ⟨second.value, first.log ++ second.log, second.lastId⟩

instance : Monad Build where
  pure := Build.pure
  bind := Build.bind

instance : LawfulMonad Build := LawfulMonad.mk' Build
  (fun build => funext fun lastId =>
    congrArg (Built.mk _ · _) (Diagnostics.append_empty (build lastId).log))
  (fun value next => funext fun lastId =>
    congrArg (Built.mk _ · _) (Diagnostics.empty_append (next value lastId).log))
  (fun _ _ _ => funext fun _ => congrArg (Built.mk _ · _) (Diagnostics.append_assoc _ _ _))

def record (log : Diagnostics) : Build Unit := fun lastId => ⟨(), log, lastId⟩

def freshId : Build Nat := fun lastId => ⟨lastId + 1, .empty, lastId + 1⟩

end Build

abbrev Attempt (α : Type) : Type := ExceptT BuildError Build α

section

variable {α β : Type} {lastId : Nat}

theorem Build.bind_apply (build : Build α) (next : α → Build β) :
    (build >>= next) lastId =
      let first := build lastId
      let second := next first.value first.lastId
      ⟨second.value, first.log ++ second.log, second.lastId⟩ := rfl

theorem Attempt.bind_ok {attempt : Attempt α} {value : α} (next : α → Attempt β)
    (made : (attempt.run lastId).value = .ok value) :
    (attempt >>= next).run lastId =
      let first := attempt.run lastId
      let second := (next value).run first.lastId
      ⟨second.value, first.log ++ second.log, second.lastId⟩ := by
  rw [ExceptT.run_bind, Build.bind_apply]
  simp only [made]

theorem Attempt.bind_error {attempt : Attempt α} {error : BuildError} (next : α → Attempt β)
    (failed : (attempt.run lastId).value = .error error) :
    (attempt >>= next).run lastId =
      let first := attempt.run lastId
      ⟨.error error, first.log, first.lastId⟩ := by
  rw [ExceptT.run_bind, Build.bind_apply]
  simp only [failed]
  exact congrArg (Built.mk _ · _) (Diagnostics.append_empty _)

end

end Wireframe
