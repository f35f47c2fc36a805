import Mathlib.Data.List.Nodup
import Wireframe.Json.Tagged
import Wireframe.Proofs.Json.Faithful

namespace Wireframe.Json

variable {α β : Type}

mutual

theorem skip_ofJson : ∀ value : Json, (Document.ofJson value).skip = .ok ()
  | .null => rfl
  | .bool _ => rfl
  | .number _ => rfl
  | .string _ => rfl
  | .array items => by
      rw [Document.ofJson, Document.skip, skip_ofItems items]
      rfl
  | .object members => by
      rw [Document.ofJson, Document.skip, skip_ofMembers members]
      rfl

theorem skip_ofItems : ∀ items : List Json, Document.skipItems (Document.ofItems items) = .ok ()
  | [] => rfl
  | item :: rest => by
      rw [Document.ofItems, Document.skipItems, skip_ofJson item]
      exact skip_ofItems rest

theorem skip_ofMembers : ∀ members : List (String × Json),
    Document.skipMembers (Document.ofMembers members) = .ok ()
  | [] => rfl
  | (_, value) :: rest => by
      rw [Document.ofMembers, Document.skipMembers, skip_ofJson value]
      exact skip_ofMembers rest

end

theorem ofMembers_append (before behind : List (String × Json)) :
    Document.ofMembers (before ++ behind) =
      Document.ofMembers before ++ Document.ofMembers behind := by
  induction before with
  | nil => rfl
  | cons member before ih => rw [List.cons_append, Document.ofMembers, ih]; rfl

theorem readMembers_others {fields : List (Field α)} {members : List (String × Json)}
    (others : ∀ member ∈ members, ∀ field ∈ fields, field.name ≠ member.1)
    (more : List (Label × Document)) (seen : List String) (record : α) :
    readMembers fields (Document.ofMembers members ++ more) seen record =
      readMembers fields more seen record := by
  induction members with
  | nil => rfl
  | cons member rest ih =>
      obtain ⟨other, others⟩ := List.forall_mem_cons.mp others
      have unknown : fields.find? (fun field => field.name = member.1) = none := by
        simpa using other
      rw [Document.ofMembers, List.cons_append, readMembers]
      dsimp only
      rw [unknown]
      dsimp only
      rw [skip_ofJson, ih others]

theorem readMembers_pass {fields : List (Field α)} {members : List (String × Json)}
    (others : ∀ member ∈ members, ∀ field ∈ fields, field.name ≠ member.1) (seen : List String)
    (record : α) :
    readMembers fields (Document.ofMembers members) seen record = .ok (seen, record) := by
  have passed := readMembers_others others [] seen record
  rwa [List.append_nil] at passed

theorem split_lookup {members : List (String × Json)} {key : String} {value : Json}
    (distinct : (members.map Prod.fst).Nodup) (there : members.lookup key = some value) :
    ∃ before behind, members = before ++ (key, value) :: behind ∧
      (∀ other ∈ before ++ behind, other.1 ≠ key) ∧
      (before ++ behind).Sublist members := by
  obtain ⟨before, behind, rfl, _⟩ := List.lookup_eq_some_iff.mp there
  refine ⟨before, behind, rfl, ?_, (List.Sublist.refl before).append (List.sublist_cons_self _ _)⟩
  rw [List.map_append, List.map_cons, List.nodup_middle, List.nodup_cons,
    ← List.map_append] at distinct
  intro other listed same
  exact distinct.1 (List.mem_map.mpr ⟨other, listed, same⟩)

theorem fields_single {field : Field α} {members : List (String × Json)} (kind : String) (start : α)
    (optional : field.required = false) (distinct : (members.map Prod.fst).Nodup) :
    (Document.ofJson (.object members)).fields kind [field] start =
      match members.lookup field.name with
      | none => .ok start
      | some value => field.read (.ofJson value) start := by
  have complete (seen : List String) : missing? [field] seen = none := by
    simp [missing?, optional]
  have passes {others : List (String × Json)} (apart : ∀ other ∈ others, other.1 ≠ field.name) :
      ∀ other ∈ others, ∀ one ∈ [field], one.name ≠ other.1 := by
    intro other listed one only
    rw [List.mem_singleton.mp only]
    exact (apart other listed).symm
  rw [Document.ofJson, Document.fields]
  dsimp only
  cases there : members.lookup field.name with
  | none =>
      have apart : ∀ other ∈ members, other.1 ≠ field.name := by
        intro other listed same
        have differs := List.lookup_eq_none_iff.mp there other listed
        simp [same] at differs
      rw [readMembers_pass (passes apart)]
      dsimp only
      rw [complete]
  | some value =>
      obtain ⟨before, behind, rfl, apart, _⟩ := split_lookup distinct there
      obtain ⟨apartBefore, apartBehind⟩ := List.forall_mem_append.mp apart
      -- The members before the field are passed over, then it is read, then those behind it are.
      rw [ofMembers_append, readMembers_others (passes apartBefore), Document.ofMembers, readMembers]
      dsimp only
      rw [List.find?_cons_of_pos (by simp)]
      dsimp only
      rw [if_neg (by simp)]
      cases field.read (.ofJson value) start with
      | error fault => rfl
      | ok record =>
          dsimp only
          rw [readMembers_pass (passes apartBehind)]
          dsimp only
          rw [complete]

variable {variants : List (Variant α)} {variant : Variant α} {tag : String}

theorem splitMembers_others {members : List (String × Json)}
    (ordered : ∀ member ∈ members, member.2.Ordered)
    (others : ∀ member ∈ members, member.1 ≠ tagName) (found : Option (Variant α)) :
    splitMembers variants (Document.ofMembers members) found = .ok (found, members) := by
  induction members with
  | nil => rfl
  | cons member rest ih =>
      obtain ⟨value, ordered⟩ := List.forall_mem_cons.mp ordered
      obtain ⟨other, others⟩ := List.forall_mem_cons.mp others
      rw [Document.ofMembers, splitMembers]
      simp only [bind, Except.bind, if_neg other, value.toJson_ofJson, ih ordered others]

/-- The tag is found wherever it stands, and the other members keep their order. -/
theorem splitMembers_tag {before behind : List (String × Json)}
    (named : variants.find? (fun variant => variant.tag = tag) = some variant)
    (ordered : ∀ member ∈ before ++ behind, member.2.Ordered)
    (others : ∀ member ∈ before ++ behind, member.1 ≠ tagName) :
    splitMembers variants
        (Document.ofMembers (before ++ (tagName, .string tag) :: behind)) none =
      .ok (some variant, before ++ behind) := by
  -- By induction on what stands before the tag; what stands behind it is split with the variant.
  induction before with
  | nil =>
      have rest : splitMembers variants (Document.ofMembers behind) (some variant) =
          .ok (some variant, behind) := splitMembers_others ordered others _
      have known : (Document.ofJson (.string tag)).variant variants = .ok variant := by
        simp only [Document.ofJson, Document.variant, named]
      rw [List.nil_append, Document.ofMembers, splitMembers]
      simp only [bind, Except.bind, if_pos, known]
      exact rest
  | cons member before ih =>
      obtain ⟨value, ordered⟩ := List.forall_mem_cons.mp ordered
      obtain ⟨other, others⟩ := List.forall_mem_cons.mp others
      rw [List.cons_append, Document.ofMembers, splitMembers]
      simp only [bind, Except.bind, if_neg other, value.toJson_ofJson, ih ordered others]
      rfl

theorem tagged_ofJson (before behind : List (String × Json)) (kind : String)
    (named : variants.find? (fun variant => variant.tag = tag) = some variant)
    (ordered : ∀ member ∈ before ++ behind, member.2.Ordered)
    (others : ∀ member ∈ before ++ behind, member.1 ≠ tagName) :
    Document.tagged kind variants
        (.ofJson (.object (before ++ (tagName, .string tag) :: behind))) =
      variant.decode (.ofJson (.object (before ++ behind))) := by
  rw [Document.tagged, Document.ofJson, Document.split]
  simp only [bind, Except.bind, splitMembers_tag named ordered others]
  rfl

theorem tagged_table {members : List (String × Json)} (kind : String)
    (named : variants.find? (fun variant => variant.tag = tag) = some variant)
    (ordered : (Json.object members).Ordered)
    (there : members.lookup tagName = some (.string tag)) :
    ∃ others, Document.tagged kind variants (.ofJson (.object members)) =
        variant.decode (.ofJson (.object others)) ∧
      (others.map Prod.fst).Nodup ∧ (∀ member ∈ others, member.2.Ordered) ∧
      ∀ key, key ≠ tagName → others.lookup key = members.lookup key := by
  cases ordered with
  | object ascends ordered =>
      obtain ⟨before, behind, rfl, apart, inner⟩ := split_lookup ascends.nodup there
      have known : ∀ member ∈ before ++ behind, member.2.Ordered := fun member listed =>
        ordered member (inner.subset listed)
      refine ⟨before ++ behind, tagged_ofJson before behind kind named known apart,
        ascends.nodup.sublist (inner.map _), known, fun key differs => ?_⟩
      rw [List.lookup_append, List.lookup_append, List.lookup_cons, beq_false_of_ne differs]

theorem variant_mem {document : Document}
    (reads : document.variant variants = .ok variant) : variant ∈ variants := by
  unfold Document.variant at reads
  split at reads
  · split at reads
    · rename_i found
      cases reads
      exact List.mem_of_find?_eq_some found
    · cases reads
  · cases reads

theorem splitMembers_mem {entries : List (Label × Document)} {found : Option (Variant α)}
    {members : List (String × Json)} (known : ∀ held ∈ found, held ∈ variants)
    (reads : splitMembers variants entries found = .ok (some variant, members)) :
    variant ∈ variants := by
  induction entries generalizing found members with
  | nil =>
      cases reads
      exact known variant rfl
  | cons entry rest ih =>
      obtain ⟨label, document⟩ := entry
      rw [splitMembers] at reads
      obtain ⟨key, _, reads⟩ := ok_of_bind reads
      split at reads
      · split at reads
        · cases reads
        · obtain ⟨next, named, reads⟩ := ok_of_bind reads
          refine ih ?_ reads
          rintro held ⟨⟩
          exact variant_mem named
      · obtain ⟨value, _, reads⟩ := ok_of_bind reads
        obtain ⟨⟨later, others⟩, rest, made⟩ := ok_of_bind reads
        cases made
        exact ih known rest

theorem split_mem {document rest : Document} {kind : String}
    (reads : document.split kind variants = .ok (variant, rest)) : variant ∈ variants := by
  unfold Document.split at reads
  split at reads
  · split at reads
    · cases reads
    · obtain ⟨⟨found, members⟩, split, reads⟩ := ok_of_bind reads
      obtain ⟨_, _, reads⟩ := ok_of_bind reads
      cases found with
      | none => cases reads
      | some variant =>
          cases reads
          exact splitMembers_mem (by simp) split
  · split at reads
    · cases reads
    · obtain ⟨_, _, reads⟩ := ok_of_bind reads
      cases reads
    · obtain ⟨found, named, reads⟩ := ok_of_bind reads
      obtain ⟨_, _, reads⟩ := ok_of_bind reads
      obtain ⟨_, _, reads⟩ := ok_of_bind reads
      cases reads
      exact variant_mem named
  · cases reads

theorem tagged_cases {document : Document} {kind : String} {message : α}
    (reads : document.tagged kind variants = .ok message) :
    ∃ variant ∈ variants, ∃ rest, variant.decode rest = .ok message := by
  obtain ⟨⟨variant, rest⟩, split, reads⟩ := ok_of_bind reads
  exact ⟨variant, split_mem split, rest, reads⟩

theorem record_cases {fields : List (Field β)} {start : β} {make : β → α} {kind : String}
    {document : Document} {message : α}
    (reads : (Variant.record tag kind fields start make).decode document = .ok message) :
    ∃ record, document.fields kind fields start = .ok record ∧ message = make record := by
  dsimp only [Variant.record] at reads
  cases read : document.fields kind fields start with
  | error fault =>
      rw [read] at reads
      cases reads
  | ok record =>
      rw [read] at reads
      exact ⟨record, rfl, (Except.ok.inj reads).symm⟩

theorem toJson_object {members : List (String × Json)}
    (ordered : ∀ member ∈ members, member.2.Ordered) :
    (Document.ofJson (.object members)).toJson = .ok (.object (Table.ofList members)) :=
  toJson_members (shows_ofJson _) fun member listed _ =>
    (ordered member listed).toJson_shown fun _ _ => Eq.symm

/-- A message is read back from what was written for it, and from the value that this has, whose
objects are tables. -/
def Survives (decode : Document → Except Fault α) (written : Json) (message : α) : Prop :=
  decode (.ofJson written) = .ok message ∧
    ∃ value, (Document.ofJson written).toJson = .ok value ∧ decode (.ofJson value) = .ok message

theorem tagged_survives {members table : List (String × Json)} {message : α} {kind : String}
    (named : variants.find? (fun variant => variant.tag = tag) = some variant)
    (ordered : ∀ member ∈ members, member.2.Ordered)
    (others : ∀ member ∈ members, member.1 ≠ tagName)
    (sorted : Table.ofList ((tagName, .string tag) :: members) = table ++ [(tagName, .string tag)])
    (reads : variant.decode (.ofJson (.object members)) = .ok message)
    (readsTable : variant.decode (.ofJson (.object table)) = .ok message) :
    Survives (Document.tagged kind variants) (tagged tag members) message := by
  have all : ∀ member ∈ (tagName, Json.string tag) :: members, member.2.Ordered :=
    List.forall_mem_cons.mpr ⟨.string tag, ordered⟩
  -- The tag is the last member of the table, so no other one has its key.
  have ascends := Table.ofList_ascends ((tagName, Json.string tag) :: members)
  rw [sorted] at ascends
  have before := (List.pairwise_append.mp ascends).2.2
  have apart : ∀ member ∈ table, member.1 ≠ tagName :=
    fun member listed => (before member listed _ List.mem_cons_self).ne
  have known : ∀ member ∈ table, member.2.Ordered := fun member listed =>
    all member (Table.mem_ofList (sorted ▸ List.mem_append_left _ listed))
  refine ⟨?_, _, toJson_object all, ?_⟩
  · exact (tagged_ofJson [] members kind named ordered others).trans reads
  · have read := tagged_ofJson table [] kind named (by simpa using known) (by simpa using apart)
    rw [List.append_nil] at read
    rw [sorted]
    exact read.trans readsTable

theorem written_ascends {fields : List (Field β)} (record : β) (value : Json)
    (ascend : (fields.map Field.name ++ [tagName]).Pairwise (· < ·)) :
    Table.Ascends (writeFields fields record ++ [(tagName, value)]) := by
  have names : ((writeFields fields record).map Prod.fst).Sublist (fields.map Field.name) := by
    clear ascend
    unfold writeFields
    induction fields with
    | nil => exact .slnil
    | cons field rest ih =>
        rw [List.filterMap_cons]
        cases field.write record with
        | none => exact ih.cons _
        | some value => exact ih.cons_cons _
  refine List.pairwise_map.mp ?_
  rw [List.map_append]
  exact ascend.sublist (names.append (List.Sublist.refl _))

/-- A record is read back behind its tag if its fields fill it. Where their names ascend up to that
of the tag, the table has the tag at its end and the fields in their order. -/
theorem Fills.survives {fields : List (Field β)} {start record : β} {make : β → α} {depth : Nat}
    {kind name : String}
    (fills : Fills Eq depth (fun field => field.write record) fields start record)
    (variants : List (Variant α)) (tag : String)
    (named : variants.find? (fun variant => variant.tag = tag) =
      some (.record tag name fields start make))
    (ordered : ∀ field ∈ fields, ∀ value ∈ field.write record, value.Ordered)
    (ascend : (fields.map Field.name ++ [tagName]).Pairwise (· < ·)) :
    Survives (Document.tagged kind variants) (tagged tag (writeFields fields record))
      (make record) := by
  have ordered : ∀ member ∈ writeFields fields record, member.2.Ordered := by
    intro member listed
    obtain ⟨field, inside, written⟩ := List.mem_filterMap.mp listed
    obtain ⟨value, held, rfl⟩ := Option.map_eq_some_iff.mp written
    exact ordered field inside value held
  have ascends := written_ascends record (.string tag) ascend
  have apart : ∀ member ∈ writeFields fields record, member.1 ≠ tagName := fun member listed =>
    ((List.pairwise_append.mp ascends).2.2 member listed _ List.mem_cons_self).ne
  have distinct : (fields.map Field.name).Nodup :=
    (List.pairwise_append.mp ascend).1.imp ne_of_lt
  have kept : (Codec.record name fields start).Keeps Eq (depth + 1) record := fills.keeps distinct
  have reads : (Document.ofJson (.object (writeFields fields record))).fields name fields start =
      .ok record := kept.reads _ (shows_ofJson _)
  have made : (Variant.record tag name fields start make).decode
      (.ofJson (.object (writeFields fields record))) = .ok (make record) := by
    rw [Variant.record]
    dsimp only
    rw [reads]
    rfl
  exact tagged_survives named ordered apart (Table.ofList_last ascends) made made

section

variable {fields : List (Field α)} {P : α → Prop} {record result : α}
  (each : ∀ field ∈ fields, ∀ document record result, P record →
    field.read document record = .ok result → P result)

include each

theorem readMembers_preserve {entries : List (Label × Document)} {seen later : List String}
    (begins : P record) (reads : readMembers fields entries seen record = .ok (later, result)) :
    P result := by
  induction entries generalizing seen record with
  | nil =>
      cases reads
      exact begins
  | cons entry rest ih =>
      obtain ⟨label, document⟩ := entry
      rw [readMembers] at reads
      split at reads
      · cases reads
      · split at reads
        · split at reads
          · cases reads
          · exact ih begins reads
        · rename_i field found
          split at reads
          · cases reads
          · split at reads
            · cases reads
            · rename_i next read
              exact ih (each field (List.mem_of_find?_eq_some found) _ _ _ begins read) reads

theorem readItems_preserve {items extra : List Document} {unread : List (Field α)}
    (begins : P record) (reads : readItems fields items record = .ok (unread, extra, result)) :
    P result := by
  induction fields generalizing items record with
  | nil =>
      cases reads
      exact begins
  | cons field fields ih =>
      obtain ⟨first, others⟩ := List.forall_mem_cons.mp each
      cases items with
      | nil =>
          cases reads
          exact begins
      | cons item items =>
          rw [readItems] at reads
          split at reads
          · cases reads
          · rename_i next read
            exact ih others (first _ _ _ begins read) reads

/-- What holds of the record that reading starts with, and of every record that a field reads, holds
of the record that is read. -/
theorem fields_preserve {kind : String} {document : Document} (begins : P record)
    (reads : document.fields kind fields record = .ok result) : P result := by
  unfold Document.fields at reads
  split at reads
  · split at reads
    · cases reads
    · split at reads
      · cases reads
      · rename_i read
        split at reads
        · cases reads
        · split at reads
          · cases reads
          · cases reads
            exact readMembers_preserve each begins read
  · split at reads
    · cases reads
    · split at reads
      · cases reads
      · rename_i read
        split at reads
        · cases reads
        · cases reads
        · cases reads
        · split at reads
          · cases reads
          · cases reads
            exact readItems_preserve each begins read
  · cases reads

end

end Wireframe.Json
