import Wireframe.Proofs.Json.Distinct
import Wireframe.Proofs.Json.Restore

namespace Wireframe.Json

variable {R : Number → Number → Prop} {depth : Nat}

theorem itemsToJson_shown {items : List Json} {documents : List Document}
    (shown : List.Forall₂ (Shows R) items documents)
    (reads : ∀ item ∈ items, ∀ document, Shows R item document → document.toJson = .ok item) :
    Document.itemsToJson documents = .ok items := by
  induction shown with
  | nil => rfl
  | cons first _ ih =>
      obtain ⟨read, others⟩ := List.forall_mem_cons.mp reads
      rw [Document.itemsToJson, read _ first, ih others]
      rfl

theorem membersToJson_shown {members : List (String × Json)} {entries : List (Label × Document)}
    (shown : List.Forall₂ (ShowsMember R) members entries)
    (reads : ∀ member ∈ members, ∀ document, Shows R member.2 document →
      document.toJson = .ok member.2) :
    Document.membersToJson entries = .ok members := by
  induction shown with
  | nil => rfl
  | @cons _ entry _ _ first _ ih =>
      obtain ⟨read, others⟩ := List.forall_mem_cons.mp reads
      obtain ⟨label, document⟩ := entry
      rw [Document.membersToJson, first.1, read _ first.2, ih others]
      rfl

theorem toJson_members {members : List (String × Json)} {document : Document}
    (shows : Shows R (.object members) document)
    (reads : ∀ member ∈ members, ∀ document, Shows R member.2 document →
      document.toJson = .ok member.2) :
    document.toJson = .ok (.object (Table.ofList members)) := by
  obtain ⟨opening, entries, stop, rfl, shallow, shown⟩ := shows.members
  rw [Document.toJson, shallow, membersToJson_shown shown reads]
  rfl

/-- Where numbers are read as they are, a document has the value that it shows. -/
theorem Ordered.toJson_shown (same : ∀ n m, R n m → m = n) {value : Json} (ordered : value.Ordered)
    {document : Document} (shows : Shows R value document) : document.toJson = .ok value := by
  induction ordered generalizing document with
  | null =>
      cases shows
      rfl
  | bool value =>
      cases shows
      rfl
  | number value =>
      cases shows with
      | number reads span =>
          obtain rfl := same _ _ reads
          rfl
  | string value =>
      cases shows
      rfl
  | array _ ih =>
      cases shows with
      | array stop shallow shown =>
          have read := itemsToJson_shown shown fun item listed _ => ih item listed
          rw [Document.toJson, shallow, read]
          rfl
  | object ascends _ ih =>
      rw [toJson_members shows fun member listed _ => ih member listed,
        Table.ofList_of_ascends ascends]

mutual

theorem shows_ofJson : ∀ value : Json, Shows Eq value (Document.ofJson value)
  | .null => .null _
  | .bool value => .bool value _
  | .number _ => .number rfl _
  | .string value => .string value _
  | .array items => .array none rfl (shows_ofItems items)
  | .object members => .object none rfl ((shows_ofMembers members).imp fun _ _ => And.left)
      ((shows_ofMembers members).imp fun _ _ => And.right)

theorem shows_ofItems : ∀ items : List Json,
    List.Forall₂ (Shows Eq) items (Document.ofItems items)
  | [] => .nil
  | item :: rest => .cons (shows_ofJson item) (shows_ofItems rest)

theorem shows_ofMembers : ∀ members : List (String × Json),
    List.Forall₂ (ShowsMember Eq) members (Document.ofMembers members)
  | [] => .nil
  | (_, value) :: rest => .cons ⟨rfl, shows_ofJson value⟩ (shows_ofMembers rest)

end

theorem Ordered.toJson_ofJson {value : Json} (ordered : value.Ordered) :
    (Document.ofJson value).toJson = .ok value :=
  ordered.toJson_shown (fun _ _ => Eq.symm) (shows_ofJson value)

theorem Codec.json_keeps (same : ∀ n m, R n m → m = n) {value : Json} (ordered : value.Ordered)
    (plain : Plain R depth value) : Codec.json.Keeps R depth value :=
  ⟨plain, fun _ shows => ordered.toJson_shown same shows⟩

/-- A value, unless it is `null`. -/
def given : Json → Option Json
  | .null => none
  | value => some value

theorem given_eq_self_iff {held : Option Json} : held.bind given = held ↔ held ≠ some .null := by
  cases held with
  | none => simp
  | some value => cases value <;> simp [given]

theorem given_of_ne {value : Json} (other : value ≠ .null) : value.given = some value := by
  cases value <;> first | contradiction | rfl

theorem null_of_toJson {document : Document} (reads : document.toJson = .ok .null) :
    ∃ span, document = .null span := by
  cases document with
  | null span => exact ⟨span, rfl⟩
  | bool value span => cases reads
  | number value span => cases value <;> cases reads
  | string value span => cases value <;> cases reads
  | list opening items ending =>
      obtain ⟨_, _, made⟩ := array_of_toJson reads
      cases made
  | record opening members ending =>
      obtain ⟨_, _, made⟩ := object_of_toJson reads
      cases made
  | broken look read skip => cases reads

theorem optional_toJson {document : Document} {value : Json} (reads : document.toJson = .ok value) :
    document.optional Document.toJson = .ok value.given := by
  by_cases null : value = .null
  · subst null
    obtain ⟨span, rfl⟩ := null_of_toJson reads
    rfl
  · have other : ∀ span, document ≠ .null span := by
      rintro span rfl
      exact null (Except.ok.inj reads).symm
    rw [optional_of_ne other, reads, given_of_ne null]
    rfl

end Wireframe.Json
