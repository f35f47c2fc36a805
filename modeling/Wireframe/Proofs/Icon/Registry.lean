import Wireframe.Icon.Registry
import Wireframe.Proofs.Table
/-!
Icons under one name. Reading a registry is to insert the members of the text one by one. Of all
icons that are inserted under a name the last is found there. Whether it keeps its colours does not
hang on the last alone: once an icon of several tones was there, every later one keeps its colours.
-/

namespace Wireframe.Icon

inductive Call where
  | insert (name markup : String)
  | insertMultiTone (name markup : String)
  | withFallback
  deriving DecidableEq

structure Inserted where
  markup : String
  multiTone : Bool
  deriving DecidableEq

namespace Call

def apply : Call → Registry → Registry
  | .insert name markup => .insert name markup
  | .insertMultiTone name markup => .insertMultiTone name markup
  | .withFallback => .withFallback

def under? (name : String) : Call → Option Inserted
  | .insert other markup => if other = name then some ⟨markup, false⟩ else none
  | .insertMultiTone other markup => if other = name then some ⟨markup, true⟩ else none
  | .withFallback => none

def under (name : String) (calls : List Call) : List Inserted := calls.filterMap (under? name)

end Call

namespace Registry

def filled (calls : List Call) (registry : Registry) : Registry :=
  calls.foldl (fun registry call => call.apply registry) registry

theorem filled_append (first second : List Call) (registry : Registry) :
    registry.filled (first ++ second) = (registry.filled first).filled second :=
  List.foldl_append

/-- What a registry knows of a name after these icons were inserted under it. -/
structure Knows (registry : Registry) (name : String) (icons : List Inserted) : Prop where
  markup : registry.icons.lookup name = icons.getLast?.map Inserted.markup
  multiTone : registry.multiTone.contains name = icons.any Inserted.multiTone

section

variable {registry : Registry} {name : String} {icons : List Inserted}

theorem Knows.apply (knows : registry.Knows name icons) (call : Call) :
    (call.apply registry).Knows name (icons ++ (call.under? name).toList) := by
  cases call with
  | insert other markup =>
      rw [Call.apply, Call.under?]
      split
      · rename_i same
        subst same
        exact ⟨by simp [insert, Table.lookup_insert_self], by simpa [insert] using knows.multiTone⟩
      · rename_i differs
        rw [Option.toList_none, List.append_nil]
        exact ⟨(Table.lookup_insert_of_ne (Ne.symm differs) _).trans knows.markup,
          knows.multiTone⟩
  | insertMultiTone other markup =>
      rw [Call.apply, Call.under?]
      split
      · rename_i same
        subst same
        exact ⟨by simp [insertMultiTone, Table.lookup_insert_self], by simp [insertMultiTone]⟩
      · rename_i differs
        rw [Option.toList_none, List.append_nil]
        refine ⟨(Table.lookup_insert_of_ne (Ne.symm differs) _).trans knows.markup, ?_⟩
        simpa [insertMultiTone, Ne.symm differs] using knows.multiTone
  | withFallback =>
      rw [Call.apply, Call.under?, Option.toList_none, List.append_nil]
      exact ⟨knows.markup, knows.multiTone⟩

theorem Knows.filled (knows : registry.Knows name icons) (calls : List Call) :
    (registry.filled calls).Knows name (icons ++ Call.under name calls) := by
  induction calls generalizing registry icons with
  | nil => simpa [Registry.filled, Call.under] using knows
  | cons call rest ih =>
      have later := ih (knows.apply call)
      rw [List.append_assoc] at later
      have split : Call.under name (call :: rest) =
          (call.under? name).toList ++ Call.under name rest := by
        rw [Call.under, Call.under, List.filterMap_cons]
        cases call.under? name <;> rfl
      rw [split]
      exact later

theorem empty_knows (name : String) : empty.Knows name [] := ⟨rfl, rfl⟩

theorem fallback_filled (calls : List Call) :
    (registry.filled calls).fallback = (registry.fallback || calls.contains .withFallback) := by
  induction calls generalizing registry with
  | nil => simp [filled]
  | cons call rest ih =>
      have later := @ih (call.apply registry)
      cases call <;> simpa [filled, Call.apply, insert, insertMultiTone, withFallback] using later

theorem Knows.lookup_last (knows : registry.Knows name icons) {last : Inserted}
    (inserted : icons.getLast? = some last) : registry.lookup name = some last.markup := by
  have found := knows.markup
  rw [inserted] at found
  simp [lookup, found]

theorem Knows.isMultiTone_inserted (knows : registry.Knows name icons) (some : icons ≠ []) :
    registry.isMultiTone name = icons.any Inserted.multiTone := by
  have found := knows.markup
  rw [List.getLast?_eq_some_getLast some] at found
  simp only [isMultiTone, found, Option.map_some, knows.multiTone]

/-- A name under which nothing was inserted is answered by the fallback alone. -/
theorem Knows.never (knows : registry.Knows name []) :
    registry.lookup name = (if registry.fallback then builtin? name else none) ∧
      registry.isMultiTone name = (registry.fallback && isBrand name) := by
  have absent : registry.icons.lookup name = none := knows.markup
  simp [lookup, isMultiTone, absent]

end

def members (text : String) : Except Json.Fault (List (String × String)) :=
  Json.readText (fun document => document.entries Json.Document.text) text

def inserts (icons : List (String × String)) : List Call :=
  icons.map fun (name, markup) => .insert name markup

theorem icons_inserts (icons : List (String × String)) (registry : Registry) :
    registry.filled (inserts icons) =
      { registry with
        icons := icons.foldl (fun table (name, markup) => Table.insert name markup table)
          registry.icons } := by
  induction icons generalizing registry with
  | nil => rfl
  | cons icon rest ih => exact ih _

theorem run_map {α β : Type} (read : Json.Document → Except Json.Fault α) (change : α → β)
    (reading : Json.Reading) :
    reading.run (fun document => (read document).map change) = (reading.run read).map change := by
  unfold Json.Reading.run
  dsimp only
  cases read reading.document with
  | error fault => rfl
  | ok value => cases reading.trailing <;> rfl

theorem ofText_eq (text : String) :
    ofText text = (members text).map fun icons => empty.filled (inserts icons) := by
  have table := run_map (fun document => document.entries Json.Document.text) Table.ofList
    (Json.Reading.ofText text)
  have read : ofText text =
      ((members text).map Table.ofList).map fun icons => { empty with icons } :=
    congrArg (Except.map _) table
  rw [read]
  cases members text with
  | error fault => rfl
  | ok icons => exact congrArg Except.ok (icons_inserts icons empty).symm

/-- Whatever calls follow the text that a registry is read from: under a name that was given, the
markup is that of the last icon inserted there. That icon keeps its colours if and only if any icon
that was inserted there has several tones, which says the same of the last unless an icon of several
tones was replaced by a plain one. A name that was never given is answered by the library if the
registry falls back on it, and not at all otherwise. -/
theorem last_insertion_decides {text : String} {registry : Registry}
    (reads : ofText text = .ok registry) :
    ∃ given, members text = .ok given ∧ ∀ (calls : List Call) (name : String),
      let icons := Call.under name (inserts given ++ calls)
      let filled := registry.filled calls
      (∀ last, icons.getLast? = some last →
        filled.lookup name = some last.markup ∧
        filled.isMultiTone name = icons.any Inserted.multiTone ∧
        (last.multiTone = true ∨ (∀ icon ∈ icons, icon.multiTone = false) →
          filled.isMultiTone name = last.multiTone)) ∧
      (icons = [] → .withFallback ∈ calls →
        filled.lookup name = library.lookup name ∧
          filled.isMultiTone name = library.isMultiTone name) ∧
      (icons = [] → .withFallback ∉ calls →
        filled.lookup name = none ∧ filled.isMultiTone name = false) := by
  rw [ofText_eq] at reads
  cases read : members text with
  | error fault =>
      rw [read] at reads
      cases reads
  | ok given =>
      rw [read] at reads
      have made : empty.filled (inserts given) = registry := Except.ok.inj reads
      subst made
      refine ⟨given, rfl, ?_⟩
      intro calls name icons filled
      have all : filled = empty.filled (inserts given ++ calls) := (filled_append _ _ _).symm
      have knows : filled.Knows name icons := all ▸ (empty_knows name).filled _
      have fallback : filled.fallback = calls.contains .withFallback := by
        rw [fallback_filled, icons_inserts]
        exact Bool.false_or _
      refine ⟨?_, ?_, ?_⟩
      · intro last inserted
        have some : icons ≠ [] := by
          rintro none
          rw [none] at inserted
          cases inserted
        have tones := knows.isMultiTone_inserted some
        refine ⟨knows.lookup_last inserted, tones, ?_⟩
        have present : last ∈ icons := List.mem_of_getLast? inserted
        rintro (several | plain)
        · rw [tones, several]
          exact List.any_eq_true.mpr ⟨last, present, several⟩
        · rw [tones, plain last present, List.any_eq_false]
          intro icon listed
          simp [plain icon listed]
      · intro none called
        rw [none] at knows
        rw [knows.never.1, knows.never.2, fallback, List.contains_iff_mem.mpr called]
        exact ⟨rfl, rfl⟩
      · intro none uncalled
        have closed : calls.contains Call.withFallback = false := by simpa using uncalled
        rw [none] at knows
        rw [knows.never.1, knows.never.2, fallback, closed]
        exact ⟨rfl, rfl⟩

/-- A registry read from a text, in which one icon replaces another. -/
theorem last_insertion_decides_replaced :
    let registry := empty.filled [.insert "logo" "A"]
    let filled := registry.filled [.insertMultiTone "logo" "B", .withFallback]
    ofText "\x7b\"logo\": \"A\"\x7d" = .ok registry ∧
      filled.lookup "logo" = some "B" ∧ filled.isMultiTone "logo" = true := by
  have reads :
      ofText "\x7b\"logo\": \"A\"\x7d" = .ok (empty.filled [.insert "logo" "A"]) := rfl
  have read : members "\x7b\"logo\": \"A\"\x7d" = .ok [("logo", "A")] := rfl
  obtain ⟨given, same, decides⟩ := last_insertion_decides reads
  cases same.symm.trans read
  obtain ⟨found, _, tones⟩ :=
    (decides [.insertMultiTone "logo" "B", .withFallback] "logo").1 ⟨"B", true⟩ rfl
  exact ⟨reads, found, tones (Or.inl rfl)⟩

/-- A plain icon in the place of one of several tones is not recoloured: the registry still takes it
for one of several tones. -/
theorem tones_outlast_icon :
    let calls : List Call := [.insertMultiTone "logo" "A", .insert "logo" "B"]
    let filled := empty.filled calls
    ofText "\x7b\x7d" = .ok empty ∧
      (Call.under "logo" calls).getLast? = some ⟨"B", false⟩ ∧
      filled.lookup "logo" = some "B" ∧ filled.isMultiTone "logo" = true := by
  refine ⟨rfl, by decide, by decide, by decide⟩

end Registry

end Wireframe.Icon
