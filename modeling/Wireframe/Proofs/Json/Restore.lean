import Wireframe.Proofs.Json.Printed
import Wireframe.Proofs.Table
/-!
Values read back. A codec restores a value if every document that shows it is read as what was
written; lists, tables and records do so when their parts do. Of a record the fields that are in the
document replace those it starts with, and the others stay.
-/

namespace Wireframe.Json

variable {α β : Type} {R : Number → Number → Prop} {depth : Nat}

def ShowsMember (R : Number → Number → Prop) (member : String × Json) (entry : Label × Document) :
    Prop :=
  entry.1.key = .ok member.1 ∧ Shows R member.2 entry.2

theorem Shows.members {members : List (String × Json)} {document : Document}
    (shows : Shows R (.object members) document) :
    ∃ opening entries stop, document = .record opening entries (.closed stop) ∧
      opening.limit = none ∧ List.Forall₂ (ShowsMember R) members entries := by
  cases shows with
  | object stop shallow keys shown =>
      have both := List.Forall₂.mp (fun _ _ keyed shows => And.intro keyed shows) keys shown
      exact ⟨_, _, stop, rfl, shallow, both⟩

/-- A codec reads whatever shows the value as `result`. -/
structure Codec.Restores (codec : Codec β) (R : Number → Number → Prop) (depth : Nat)
    (value : Json) (result : β) : Prop where
  plain : Plain R depth value
  reads : ∀ document, Shows R value document → codec.decode document = .ok result

section

variable {codec : Codec β} {value : Json} {result : β}
  (restores : codec.Restores R depth value result) (shallow : depth ≤ depthLimit)

include restores in
theorem Codec.Restores.ofText_shown {text : String} (shown : ∃ document, Shows R value document ∧
    Reading.ofText text = ⟨document, none⟩) : codec.ofText text = .ok result := by
  obtain ⟨document, shows, reading⟩ := shown
  rw [Codec.ofText, readText, reading, Reading.run, restores.reads document shows]

include restores shallow

theorem Codec.Restores.ofText (prints : ∀ n m, R n m → n.Prints m) :
    codec.ofText value.compact = .ok result :=
  restores.ofText_shown (restores.plain.reading prints shallow)

theorem Codec.Restores.ofText_pretty (prints : ∀ n m, R n m → n.Prints m) :
    codec.ofText value.pretty = .ok result :=
  restores.ofText_shown (restores.plain.reading_pretty prints shallow)

end

abbrev Codec.Keeps (codec : Codec β) (R : Number → Number → Prop) (depth : Nat) (x : β) : Prop :=
  codec.Restores R depth (codec.encode x) x

namespace Codec

theorem text_keeps (s : String) : text.Keeps R depth s := by
  refine ⟨.string s, fun document shows => ?_⟩
  cases shows
  rfl

theorem flag_keeps (b : Bool) : flag.Keeps R depth b := by
  refine ⟨.bool b, fun document shows => ?_⟩
  cases shows
  rfl

theorem single_keeps {x : Float32} {m : Number} (reads : R (.single x) m)
    (same : ∀ k, R (.single x) k → k.toSingle = x) : single.Keeps R depth x := by
  refine ⟨.number reads, fun document shows => ?_⟩
  cases shows with
  | number reads span => exact congrArg Except.ok (same _ reads)

theorem natural_keeps {n : Nat} {expected : String} (reads : R (.whole n) (.whole n))
    (same : ∀ k, R (.whole n) k → k = .whole n) : (natural expected).Keeps R depth n := by
  refine ⟨.number reads, fun document shows => ?_⟩
  cases shows with
  | number reads span =>
      rw [same _ reads]
      simp [natural, Document.natural]

theorem mapM_shown {γ δ : Type} {S : β → γ → Prop} {read : γ → Except Fault δ} {make : β → δ}
    {parts : List β} {documents : List γ} (shown : List.Forall₂ S parts documents)
    (reads : ∀ part ∈ parts, ∀ document, S part document → read document = .ok (make part)) :
    documents.mapM read = .ok (parts.map make) := by
  induction shown with
  | nil => rfl
  | cons first _ ih =>
      obtain ⟨reads, others⟩ := List.forall_mem_cons.mp reads
      rw [List.mapM_cons, reads _ first, ih others]
      rfl

theorem list_restores {codec : Codec β} {items : List β} {make : β → β}
    (restores : ∀ item ∈ items, codec.Restores R depth (codec.encode item) (make item)) :
    (list codec).Restores R (depth + 1) ((list codec).encode items) (items.map make) := by
  refine ⟨.array (List.forall_mem_map.mpr fun item listed => (restores item listed).plain), ?_⟩
  intro document shows
  cases shows with
  | array stop shallow shown =>
      have read := mapM_shown (List.forall₂_map_left_iff.mp shown)
        fun item listed => (restores item listed).reads
      simp only [list, Document.items, shallow, read]
      rfl

theorem list_keeps {codec : Codec β} {items : List β}
    (keeps : ∀ item ∈ items, codec.Keeps R depth item) :
    (list codec).Keeps R (depth + 1) items := by
  have restores : (list codec).Restores R (depth + 1) _ (items.map id) := list_restores keeps
  rwa [List.map_id] at restores

theorem table_keeps {codec : Codec β} {entries : List (String × β)}
    (ascends : Table.Ascends entries)
    (keeps : ∀ entry ∈ entries, codec.Keeps R depth entry.2) :
    (table codec).Keeps R (depth + 1) entries := by
  refine ⟨.object (List.forall_mem_map.mpr fun entry listed => (keeps entry listed).plain), ?_⟩
  intro document shows
  obtain ⟨opening, documents, stop, rfl, shallow, shown⟩ := shows.members
  have read : List.mapM (fun entry : Label × Document => do
      let key ← entry.1.key
      let value ← codec.decode entry.2
      .ok (key, value)) documents = .ok (entries.map id) := by
    refine mapM_shown (List.forall₂_map_left_iff.mp shown) fun entry listed document shows => ?_
    rw [shows.1, (keeps entry listed).reads _ shows.2]
    rfl
  simp only [table, Document.entries, shallow, read, List.map_id]
  exact congrArg Except.ok (Table.ofList_of_ascends ascends)

end Codec

def chosen (choose : Field α → Option Json) (fields : List (Field α)) : List (String × Json) :=
  fields.filterMap fun field => (choose field).map (field.name, ·)

/-- Reading the chosen values of the fields in order takes one record to another. -/
inductive Fills (R : Number → Number → Prop) (depth : Nat) (choose : Field α → Option Json) :
    List (Field α) → α → α → Prop
  | done {record : α} : Fills R depth choose [] record record
  | skip {field : Field α} {fields : List (Field α)} {record result : α} :
      choose field = none → field.required = false → Fills R depth choose fields record result →
      Fills R depth choose (field :: fields) record result
  | take {field : Field α} {fields : List (Field α)} {value : Json} {record next result : α} :
      choose field = some value → Plain R depth value →
      (∀ document, Shows R value document → field.read document record = .ok next) →
      Fills R depth choose fields next result →
      Fills R depth choose (field :: fields) record result

variable {choose : Field α → Option Json} {fields : List (Field α)} {record result : α}

theorem Fills.plain (fills : Fills R depth choose fields record result) :
    ∀ member ∈ chosen choose fields, Plain R depth member.2 := by
  induction fills with
  | done => exact List.forall_mem_nil _
  | skip none _ _ ih =>
      rw [chosen, List.filterMap_cons_none (by rw [none]; rfl)]
      exact ih
  | take value plain _ _ ih =>
      rw [chosen, List.filterMap_cons_some (by rw [value]; rfl)]
      exact List.forall_mem_cons.mpr ⟨plain, ih⟩

theorem find?_name {field : Field α} (distinct : (fields.map Field.name).Nodup)
    (listed : field ∈ fields) :
    (fields.find? fun other => other.name = field.name) = some field := by
  induction fields with
  | nil => cases listed
  | cons first others ih =>
      obtain ⟨apart, distinct⟩ := List.nodup_cons.mp distinct
      rcases List.mem_cons.mp listed with rfl | later
      · exact List.find?_cons_of_pos (by simp)
      · have differs : first.name ≠ field.name := by
          intro same
          exact apart (same ▸ List.mem_map_of_mem later)
        rw [List.find?_cons_of_neg (by simpa using differs), ih distinct later]

theorem Fills.readMembers {done : List (Field α)} {entries : List (Label × Document)}
    (fills : Fills R depth choose fields record result)
    (distinct : ((done ++ fields).map Field.name).Nodup)
    (shown : List.Forall₂ (ShowsMember R) (chosen choose fields) entries)
    {seen : List String} (earlier : ∀ name ∈ seen, name ∈ done.map Field.name) :
    ∃ later, readMembers (done ++ fields) entries seen record = .ok (later, result) ∧
      (∀ name ∈ seen, name ∈ later) ∧
      ∀ field ∈ fields, field.required = true → field.name ∈ later := by
  -- The fields passed so far are `done`, and no other name has been seen yet.
  induction fills generalizing done entries seen with
  | done =>
      cases shown
      exact ⟨seen, rfl, fun _ => id, List.forall_mem_nil _⟩
  | @skip field fields record result none optional fills ih =>
      rw [List.append_cons] at distinct ⊢
      rw [chosen, List.filterMap_cons_none (by rw [none]; rfl)] at shown
      have before : ∀ name ∈ seen, name ∈ (done ++ [field]).map Field.name := by
        intro name listed
        simp [earlier name listed]
      obtain ⟨later, read, kept, required⟩ := ih distinct shown before
      refine ⟨later, read, kept, List.forall_mem_cons.mpr ⟨?_, required⟩⟩
      rw [optional]
      nofun
  | @take field fields value record next result some plain reads fills ih =>
      rw [chosen, List.filterMap_cons_some (by rw [some]; rfl)] at shown
      cases shown with
      | @cons _ entry _ entries first shown =>
          obtain ⟨label, document⟩ := entry
          have found := find?_name distinct (List.mem_append_right done List.mem_cons_self)
          have fresh : ¬ seen.contains field.name = true := by
            rw [List.map_append, List.nodup_append] at distinct
            rw [List.contains_iff_mem]
            intro listed
            exact distinct.2.2 _ (earlier _ listed) _ List.mem_cons_self rfl
          have before : ∀ name ∈ field.name :: seen, name ∈ (done ++ [field]).map Field.name := by
            intro name listed
            rcases List.mem_cons.mp listed with rfl | listed
            · simp
            · simp [earlier name listed]
          rw [List.append_cons] at distinct
          obtain ⟨later, read, kept, required⟩ := ih distinct shown before
          refine ⟨later, ?_, fun name listed => kept name (List.mem_cons_of_mem _ listed),
            List.forall_mem_cons.mpr ⟨fun _ => kept _ List.mem_cons_self, required⟩⟩
          rw [Json.readMembers, first.1]
          dsimp only
          rw [found]
          dsimp only
          rw [if_neg fresh, reads document first.2]
          rwa [← List.append_cons] at read

/-- A record is restored when its fields fill it from the one it starts with. -/
theorem Fills.restores {kind : String} (fills : Fills R depth choose fields record result)
    (distinct : (fields.map Field.name).Nodup) :
    (Codec.record kind fields record).Restores R (depth + 1) (.object (chosen choose fields))
      result := by
  refine ⟨.object fills.plain, fun document shows => ?_⟩
  obtain ⟨opening, entries, stop, rfl, shallow, shown⟩ := shows.members
  have earlier : ∀ name ∈ ([] : List String), name ∈ ([] : List (Field α)).map Field.name :=
    List.forall_mem_nil _
  obtain ⟨later, read, _, required⟩ := fills.readMembers (by simpa using distinct) shown earlier
  rw [List.nil_append] at read
  have complete : missing? fields later = none := by
    rw [missing?, List.find?_eq_none]
    intro field listed
    simpa using required field listed
  simp only [Codec.record, Document.fields, shallow, read, complete]

theorem Fills.keeps {kind : String} {base : α}
    (fills : Fills R depth (fun field => field.write record) fields base record)
    (distinct : (fields.map Field.name).Nodup) :
    (Codec.record kind fields base).Keeps R (depth + 1) record :=
  fills.restores distinct

variable {name : String} {codec : Codec β} {get : α → β} {set : β → α → α} {value : Json} {x : β}

theorem Fills.must (there : choose (.must name codec get set) = some value)
    (restores : codec.Restores R depth value x)
    (later : Fills R depth choose fields (set x record) result) :
    Fills R depth choose (.must name codec get set :: fields) record result := by
  refine .take there restores.plain (fun document shows => ?_) later
  simp only [Field.must, restores.reads document shows]
  rfl

theorem Fills.may (keep : Bool)
    (there : choose (.may name codec get set) = if keep then some value else none)
    (restores : codec.Restores R depth value x) (same : set (get record) record = record)
    (later : Fills R depth choose fields (set (if keep then x else get record) record) result) :
    Fills R depth choose (.may name codec get set :: fields) record result := by
  cases keep with
  | false =>
      rw [if_neg Bool.false_ne_true, same] at later
      exact .skip there rfl later
  | true =>
      refine .take there restores.plain (fun document shows => ?_) later
      simp only [Field.may, Field.must, restores.reads document shows]
      rfl

theorem optional_of_ne {document : Document} (other : ∀ span, document ≠ .null span)
    (read : Document → Except Fault β) : document.optional read = (read document).map some := by
  cases document with
  | null span => exact absurd rfl (other span)
  | _ => rfl

theorem Shows.optional {document : Document} (shows : Shows R value document)
    (other : value ≠ .null) (read : Document → Except Fault β) :
    document.optional read = (read document).map some := by
  refine optional_of_ne ?_ read
  rintro span rfl
  cases shows
  exact other rfl

theorem Codec.optional_keeps {held : Option β} (other : ∀ x, codec.encode x ≠ .null)
    (keeps : ∀ x ∈ held, codec.Keeps R depth x) :
    ∀ x ∈ held, Plain R depth (codec.encode x) ∧ ∀ document,
      Shows R (codec.encode x) document → document.optional codec.decode = .ok held := by
  intro x there
  obtain ⟨plain, reads⟩ := keeps x there
  refine ⟨plain, fun document shows => ?_⟩
  rw [shows.optional (other x), reads document shows, Option.mem_def.mp there]
  rfl

theorem Fills.optional {get : α → Option β} {set : Option β → α → α} {held found : Option β}
    (there : choose (.optional name codec get set) = held.map codec.encode)
    (restores : ∀ x ∈ held, Plain R depth (codec.encode x) ∧ ∀ document,
      Shows R (codec.encode x) document → document.optional codec.decode = .ok found)
    (absent : held = none → set found record = record)
    (later : Fills R depth choose fields (set found record) result) :
    Fills R depth choose (.optional name codec get set :: fields) record result := by
  cases held with
  | none =>
      rw [absent rfl] at later
      exact .skip there rfl later
  | some x =>
      obtain ⟨plain, reads⟩ := restores x rfl
      refine .take there plain (fun document shows => ?_) later
      simp only [Field.optional, reads document shows]
      rfl

def keep (names : String → Bool) : Json → Json
  | .object members => .object (members.filter fun member => names member.1)
  | value => value

/-- An object in which the value under a key is changed. -/
def within (key : String) (change : Json → Json) : Json → Json
  | .object members => .object (members.map fun (name, value) =>
      (name, if name = key then change value else value))
  | value => value

@[simp] theorem keep_all (value : Json) : value.keep (fun _ => true) = value := by
  cases value with
  | object members => rw [keep, List.filter_true]
  | _ => rfl

theorem within_same {change : Json → Json} (same : ∀ value, change value = value) (key : String)
    (value : Json) : value.within key change = value := by
  cases value with
  | object members => simp [within, same]
  | _ => rfl

theorem keep_chosen (names : String → Bool) (fields : List (Field α)) :
    (Json.object (chosen choose fields)).keep names =
      .object (chosen (fun field => if names field.name then choose field else none) fields) := by
  rw [keep, chosen, List.filter_filterMap, chosen]
  congr 2
  funext field
  cases kept : names field.name <;> cases choose field <;> simp [kept]

theorem within_chosen (key : String) (change : Json → Json) (fields : List (Field α)) :
    (Json.object (chosen choose fields)).within key change =
      .object (chosen (fun field => (choose field).map fun value =>
        if field.name = key then change value else value) fields) := by
  rw [within, chosen, List.map_filterMap, chosen]
  congr 2
  funext field
  cases value : choose field <;> rfl

/-- A record whose written object is cut down is restored when the fields that are left fill it. -/
theorem Fills.restores_kept {kind : String} {base : α} {names : String → Bool}
    (fills : Fills R depth (fun field => if names field.name then field.write record else none)
      fields base result) (distinct : (fields.map Field.name).Nodup) :
    (Codec.record kind fields base).Restores R (depth + 1)
      (((Codec.record kind fields base).encode record).keep names) result := by
  have restored : (Codec.record kind fields base).Restores R (depth + 1) _ result :=
    fills.restores distinct
  rwa [← keep_chosen] at restored

end Wireframe.Json
