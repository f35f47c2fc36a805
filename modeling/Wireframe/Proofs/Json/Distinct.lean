import Wireframe.Json.Record
import Wireframe.Proofs.Table
/-!
Names in objects. Objects that are read from a document are tables, at every depth, so no object of
a value that was read has two members of one name.
-/

namespace Wireframe

namespace Json

mutual

/-- Whether no object in a value has two members of one name, at any depth. -/
def isDistinct : Json → Bool
  | .array items => areDistinct items
  | .object members => decide (members.map Prod.fst).Nodup && holdDistinct members
  | _ => true

def areDistinct : List Json → Bool
  | [] => true
  | item :: rest => isDistinct item && areDistinct rest

def holdDistinct : List (String × Json) → Bool
  | [] => true
  | (_, value) :: rest => isDistinct value && holdDistinct rest

end

theorem areDistinct_iff {items : List Json} :
    areDistinct items = true ↔ ∀ item ∈ items, isDistinct item = true := by
  induction items with
  | nil => simp [areDistinct]
  | cons item rest ih => simp [areDistinct, ih]

theorem holdDistinct_iff {members : List (String × Json)} :
    holdDistinct members = true ↔ ∀ member ∈ members, isDistinct member.2 = true := by
  induction members with
  | nil => simp [holdDistinct]
  | cons member rest ih => simp [holdDistinct, ih]

theorem isDistinct_object_iff {members : List (String × Json)} :
    isDistinct (.object members) = true ↔
      (members.map Prod.fst).Nodup ∧ ∀ member ∈ members, isDistinct member.2 = true := by
  rw [isDistinct, Bool.and_eq_true_iff, decide_eq_true_eq, holdDistinct_iff]

inductive Ordered : Json → Prop
  | null : Ordered .null
  | bool (value : Bool) : Ordered (.bool value)
  | number (value : Number) : Ordered (.number value)
  | string (value : String) : Ordered (.string value)
  | array {items : List Json} (ordered : ∀ item ∈ items, Ordered item) : Ordered (.array items)
  | object {members : List (String × Json)} (ascends : Table.Ascends members)
      (ordered : ∀ member ∈ members, Ordered member.2) : Ordered (.object members)

theorem Ordered.isDistinct {value : Json} (ordered : value.Ordered) : value.isDistinct = true := by
  induction ordered with
  | array _ ih => exact areDistinct_iff.mpr ih
  | object ascends _ ih => exact isDistinct_object_iff.mpr ⟨ascends.nodup, ih⟩
  | _ => rfl

theorem ok_of_bind {α β : Type} {first : Except Fault α} {next : α → Except Fault β} {value : β}
    (reads : (first >>= next) = .ok value) :
    ∃ found, first = .ok found ∧ next found = .ok value := by
  cases first with
  | error fault => cases reads
  | ok found => exact ⟨found, rfl, reads⟩

theorem ok_of_parts {α : Type} {opening : Opening} {ending : Ending} {parts : Except Fault α}
    (make : α → Json) {value : Json}
    (reads : (match opening.limit with
      | some fault => .error fault
      | none => do
          let found ← parts
          match ending with
          | .closed _ => .ok (make found)
          | .broken breach => .error breach.read) = Except.ok value) :
    ∃ found, parts = .ok found ∧ value = make found := by
  cases limit : opening.limit with
  | some fault =>
      rw [limit] at reads
      cases reads
  | none =>
      rw [limit] at reads
      obtain ⟨found, read, ends⟩ := ok_of_bind reads
      cases ending with
      | broken breach => cases ends
      | closed stop => exact ⟨found, read, (Except.ok.inj ends).symm⟩

theorem array_of_toJson {opening : Opening} {items : List Document} {ending : Ending} {value : Json}
    (reads : (Document.list opening items ending).toJson = .ok value) :
    ∃ values, Document.itemsToJson items = .ok values ∧ value = .array values := by
  rw [Document.toJson] at reads
  exact ok_of_parts Json.array reads

theorem object_of_toJson {opening : Opening} {members : List (Label × Document)} {ending : Ending}
    {value : Json} (reads : (Document.record opening members ending).toJson = .ok value) :
    ∃ entries, Document.membersToJson members = .ok entries ∧
      value = .object (Table.ofList entries) := by
  rw [Document.toJson] at reads
  exact ok_of_parts (fun entries => Json.object (Table.ofList entries)) reads

mutual

theorem toJson_ordered : ∀ {document : Document} {value : Json},
    document.toJson = .ok value → value.Ordered
  | .null _, value, reads => by
      cases reads
      exact .null
  | .bool _ _, value, reads => by
      cases reads
      exact .bool _
  | .number given _, value, reads => by
      cases given with
      | error fault => cases reads
      | ok given =>
          cases reads
          exact .number _
  | .string text _, value, reads => by
      cases text with
      | error fault => cases reads
      | ok text =>
          cases reads
          exact .string _
  | .list opening items ending, value, reads => by
      obtain ⟨values, readItems, rfl⟩ := array_of_toJson reads
      exact .array (itemsToJson_ordered readItems)
  | .record opening members ending, value, reads => by
      obtain ⟨entries, readMembers, rfl⟩ := object_of_toJson reads
      refine .object (Table.ofList_ascends entries) ?_
      intro member inside
      exact membersToJson_ordered readMembers member (Table.mem_ofList inside)
  | .broken _ _ _, value, reads => by cases reads

theorem itemsToJson_ordered : ∀ {items : List Document} {values : List Json},
    Document.itemsToJson items = .ok values → ∀ value ∈ values, value.Ordered
  | [], values, reads => by
      cases reads
      nofun
  | item :: rest, values, reads => by
      rw [Document.itemsToJson] at reads
      obtain ⟨first, readFirst, reads⟩ := ok_of_bind reads
      obtain ⟨others, readOthers, reads⟩ := ok_of_bind reads
      cases reads
      intro value member
      rcases List.mem_cons.mp member with rfl | later
      · exact toJson_ordered readFirst
      · exact itemsToJson_ordered readOthers value later

theorem membersToJson_ordered : ∀ {members : List (Label × Document)}
    {entries : List (String × Json)}, Document.membersToJson members = .ok entries →
      ∀ member ∈ entries, member.2.Ordered
  | [], entries, reads => by
      cases reads
      nofun
  | (label, document) :: rest, entries, reads => by
      rw [Document.membersToJson] at reads
      obtain ⟨key, _, reads⟩ := ok_of_bind reads
      obtain ⟨first, readFirst, reads⟩ := ok_of_bind reads
      obtain ⟨others, readOthers, reads⟩ := ok_of_bind reads
      cases reads
      intro entry member
      rcases List.mem_cons.mp member with rfl | later
      · exact toJson_ordered readFirst
      · exact membersToJson_ordered readOthers entry later

end

theorem reading_of_readText {α : Type} {read : Document → Except Fault α} {text : String}
    {value : α} (reads : readText read text = .ok value) :
    ∃ document, Reading.ofText text = ⟨document, none⟩ ∧ read document = .ok value := by
  unfold readText Reading.run at reads
  split at reads
  · cases reads
  · cases reads
  · rename_i found read alone
    exact ⟨_, congrArg (Reading.mk _) alone, read.trans reads⟩

theorem isDistinct_ofText {text : String} {value : Json} (reads : ofText text = .ok value) :
    isDistinct value = true := by
  obtain ⟨document, _, read⟩ := reading_of_readText reads
  exact (toJson_ordered read).isDistinct

/-- A value in which each object has a name once. -/
structure Proper where
  value : Json
  distinct : value.isDistinct = true

namespace Proper

def ofText {text : String} {value : Json} (reads : Json.ofText text = .ok value) : Proper :=
  ⟨value, isDistinct_ofText reads⟩

def items : Proper → List Proper
  | ⟨.array values, distinct⟩ => values.pmap mk (areDistinct_iff.mp distinct)
  | _ => []

theorem values_items {values : List Json} (distinct : isDistinct (.array values) = true) :
    (items ⟨.array values, distinct⟩).map value = values := by
  rw [items, List.map_pmap, List.pmap_eq_map, List.map_id']

end Proper

end Json

end Wireframe
