import Mathlib.Data.String.Basic
import Wireframe.Json.Value

namespace Wireframe

theorem Text.precedes_iff_lt {first second : List Char} :
    precedes first second = true ↔ first < second := by
  induction first generalizing second with
  | nil => cases second <;> simp [precedes]
  | cons char rest ih =>
      cases second with
      | nil => simp [precedes]
      | cons other others =>
          rw [precedes, List.cons_lt_cons_iff]
          by_cases same : char = other
          · subst same
            simp [ih]
          · have order : char < other ↔ char.toNat < other.toNat :=
              Char.lt_def.trans UInt32.lt_iff_toNat_lt
            simp [same, order]

namespace Table

variable {α : Type} {key : String} {value : α}

def Ascends (table : List (String × α)) : Prop :=
  table.Pairwise fun first second => first.1 < second.1

theorem Ascends.nodup {table : List (String × α)} (ascends : Ascends table) :
    (table.map Prod.fst).Nodup :=
  (List.pairwise_map.mpr ascends).imp ne_of_lt

theorem mem_insert {table : List (String × α)} {entry : String × α}
    (member : entry ∈ insert key value table) : entry = (key, value) ∨ entry ∈ table := by
  induction table with
  | nil => simpa [insert] using member
  | cons first rest ih =>
      obtain ⟨other, old⟩ := first
      rw [insert] at member
      split at member
      · rcases List.mem_cons.mp member with new | later
        · exact Or.inl new
        · exact Or.inr (List.mem_cons_of_mem _ later)
      · split at member
        · exact List.mem_cons.mp member
        · rcases List.mem_cons.mp member with same | later
          · exact Or.inr (same ▸ List.mem_cons_self)
          · exact (ih later).imp_right (List.mem_cons_of_mem _)

theorem insert_ascends {table : List (String × α)} (ascends : Ascends table) :
    Ascends (insert key value table) := by
  induction table with
  | nil => exact List.pairwise_singleton _ _
  | cons first rest ih =>
      obtain ⟨other, old⟩ := first
      obtain ⟨least, ascendsRest⟩ := List.pairwise_cons.mp ascends
      rw [insert]
      split
      · rename_i same
        subst same
        exact List.pairwise_cons.mpr ⟨least, ascendsRest⟩
      · rename_i differs
        split
        · rename_i precedes
          have before : key < other :=
            String.lt_iff_toList_lt.mpr (Text.precedes_iff_lt.mp precedes)
          refine List.pairwise_cons.mpr ⟨?_, ascends⟩
          intro entry member
          rcases List.mem_cons.mp member with rfl | later
          · exact before
          · exact lt_trans before (least entry later)
        · rename_i follows
          have after : other < key := by
            refine lt_of_le_of_ne (not_lt.mp ?_) (Ne.symm differs)
            intro before
            exact follows (Text.precedes_iff_lt.mpr (String.lt_iff_toList_lt.mp before))
          refine List.pairwise_cons.mpr ⟨?_, ih ascendsRest⟩
          intro entry member
          rcases mem_insert member with rfl | earlier
          · exact after
          · exact least entry earlier

theorem ofList_ascends (entries : List (String × α)) : Ascends (ofList entries) := by
  suffices general : ∀ table, Ascends table →
      Ascends (entries.foldl (fun table entry => insert entry.1 entry.2 table) table) from
    general [] .nil
  induction entries with
  | nil => exact fun table ascends => ascends
  | cons entry rest ih => exact fun table ascends => ih _ (insert_ascends ascends)

theorem mem_ofList {entries : List (String × α)} {entry : String × α}
    (member : entry ∈ ofList entries) : entry ∈ entries := by
  suffices general : ∀ table,
      entry ∈ entries.foldl (fun table entry => insert entry.1 entry.2 table) table →
        entry ∈ table ∨ entry ∈ entries by
    rcases general [] member with absent | present
    · cases absent
    · exact present
  clear member
  induction entries with
  | nil => exact fun table member => Or.inl member
  | cons first rest ih =>
      intro table member
      rcases ih _ member with inserted | later
      · rcases mem_insert inserted with new | old
        · exact Or.inr (new ▸ List.mem_cons_self)
        · exact Or.inl old
      · exact Or.inr (List.mem_cons_of_mem _ later)

theorem lookup_insert_self (table : List (String × α)) :
    (insert key value table).lookup key = some value := by
  induction table with
  | nil => simp [insert]
  | cons first rest ih =>
      obtain ⟨other, old⟩ := first
      rw [insert]
      split
      · exact List.lookup_cons_self
      · rename_i differs
        split
        · exact List.lookup_cons_self
        · rw [List.lookup_cons, beq_false_of_ne differs]
          exact ih

theorem lookup_insert_of_ne {name : String} (differs : name ≠ key) (table : List (String × α)) :
    (insert key value table).lookup name = table.lookup name := by
  have miss : (name == key) = false := beq_false_of_ne differs
  induction table with
  | nil => simp [insert, List.lookup_cons, miss]
  | cons first rest ih =>
      obtain ⟨other, old⟩ := first
      rw [insert]
      split
      · rename_i same
        rw [List.lookup_cons, List.lookup_cons, ← same, miss]
      · split
        · rw [List.lookup_cons, miss]
        · rw [List.lookup_cons, List.lookup_cons, ih]

theorem insert_between {table rest : List (String × α)} (lesser : ∀ entry ∈ table, entry.1 < key)
    (greater : ∀ entry ∈ rest, key < entry.1) :
    insert key value (table ++ rest) = table ++ (key, value) :: rest := by
  induction table with
  | nil =>
      cases rest with
      | nil => rfl
      | cons first others =>
          have before : key < first.1 := greater first List.mem_cons_self
          rw [List.nil_append, insert, if_neg before.ne, List.nil_append,
            if_pos (Text.precedes_iff_lt.mpr (String.lt_iff_toList_lt.mp before))]
  | cons first table ih =>
      obtain ⟨after, others⟩ := List.forall_mem_cons.mp lesser
      have follows : ¬ Text.precedes key.toList first.1.toList = true := by
        rw [Text.precedes_iff_lt, ← String.lt_iff_toList_lt]
        exact lt_asymm after
      rw [List.cons_append, insert, if_neg (ne_of_gt after), if_neg follows, ih others,
        List.cons_append]

/-- A list whose keys ascend, behind an entry whose key is the greatest of all, which goes to the
end. -/
theorem ofList_last {last : String × α} {entries : List (String × α)}
    (ascends : Ascends (entries ++ [last])) : ofList (last :: entries) = entries ++ [last] := by
  suffices general : ∀ table, Ascends (table ++ entries ++ [last]) →
      entries.foldl (fun table entry => insert entry.1 entry.2 table) (table ++ [last]) =
        table ++ entries ++ [last] from
    general [] ascends
  clear ascends
  induction entries with
  | nil => simp
  | cons entry rest ih =>
      intro table ascends
      have parts : Ascends (table ++ entry :: (rest ++ [last])) := by simpa using ascends
      obtain ⟨_, tail, lesser⟩ := List.pairwise_append.mp parts
      have greater : ∀ other ∈ [last], entry.1 < other.1 := fun other listed =>
        (List.pairwise_cons.mp tail).1 other (List.mem_append_right _ listed)
      have moved := ih (table ++ [entry]) (by simpa using ascends)
      rw [List.foldl_cons, insert_between (fun other listed =>
        lesser other listed entry List.mem_cons_self) greater]
      simpa using moved

theorem ofList_of_ascends {entries : List (String × α)} (ascends : Ascends entries) :
    ofList entries = entries := by
  suffices general : ∀ table, Ascends (table ++ entries) →
      entries.foldl (fun table entry => insert entry.1 entry.2 table) table = table ++ entries from
    general [] ascends
  clear ascends
  induction entries with
  | nil => simp
  | cons entry rest ih =>
      intro table ascends
      have last : ∀ other ∈ table, other.1 < entry.1 := fun other listed =>
        (List.pairwise_append.mp ascends).2.2 other listed entry List.mem_cons_self
      have greater : ∀ other ∈ ([] : List (String × α)), entry.1 < other.1 :=
        List.forall_mem_nil _
      have step : insert entry.1 entry.2 table = table ++ [entry] := by
        simpa using insert_between last greater
      rw [List.foldl_cons, step, ih _ (by simpa using ascends)]
      simp

theorem mem_keys_insert {name : String} (table : List (String × α)) :
    name ∈ (insert key value table).map Prod.fst ↔ name = key ∨ name ∈ table.map Prod.fst := by
  induction table with
  | nil => simp [insert]
  | cons first rest ih =>
      obtain ⟨other, old⟩ := first
      rw [insert]
      split
      · rename_i same
        simp [same]
      · split
        · simp
        · rw [List.map_cons, List.mem_cons, ih, List.map_cons, List.mem_cons]
          exact or_left_comm

theorem mem_keys_ofList {name : String} (entries : List (String × α)) :
    name ∈ (ofList entries).map Prod.fst ↔ name ∈ entries.map Prod.fst := by
  suffices general : ∀ table : List (String × α),
      name ∈ (entries.foldl (fun table entry => insert entry.1 entry.2 table) table).map Prod.fst ↔
        name ∈ table.map Prod.fst ∨ name ∈ entries.map Prod.fst by
    exact (general []).trans (by simp)
  induction entries with
  | nil => simp
  | cons entry rest ih =>
      intro table
      rw [List.foldl_cons, ih, mem_keys_insert, List.map_cons, List.mem_cons, or_assoc,
        or_left_comm]

theorem lookup_isSome_iff {name : String} {table : List (String × α)} :
    (table.lookup name).isSome = true ↔ name ∈ table.map Prod.fst := by
  simp only [List.lookup_isSome_iff, List.mem_map, beq_iff_eq, eq_comm (a := name)]

end Table

end Wireframe
