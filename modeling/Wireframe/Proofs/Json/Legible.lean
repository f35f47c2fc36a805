import Wireframe.Proofs.Json.Distinct
import Wireframe.Proofs.Json.Lexeme

namespace Wireframe.Json

open Text (isBlank)

def Document.Fails (document : Document) : Prop := ∀ value, document.toJson ≠ .ok value

def Reading.Fails (reading : Reading) : Prop :=
  reading.document.Fails ∨ reading.trailing ≠ none

theorem broken_fails (look : Option Place) (read skip : Fault) :
    (Document.broken look read skip).Fails := by
  intro value reads
  cases reads

theorem list_fails (opening : Opening) (items : List Document) (breach : Break) :
    (Document.list opening items (.broken breach)).Fails := by
  intro value reads
  rw [Document.toJson] at reads
  split at reads
  · cases reads
  · obtain ⟨found, _, ends⟩ := ok_of_bind reads
    cases ends

theorem record_fails (opening : Opening) (members : List (Label × Document)) (breach : Break) :
    (Document.record opening members (.broken breach)).Fails := by
  intro value reads
  rw [Document.toJson] at reads
  split at reads
  · cases reads
  · obtain ⟨found, _, ends⟩ := ok_of_bind reads
    cases ends

theorem itemsToJson_fails {value : Document} (fails : value.Fails) (before : List Document)
    (items : List Json) : Document.itemsToJson (before ++ [value]) ≠ .ok items := by
  induction before generalizing items with
  | nil =>
      intro reads
      rw [List.nil_append, Document.itemsToJson] at reads
      obtain ⟨found, read, _⟩ := ok_of_bind reads
      exact fails found read
  | cons item rest ih =>
      intro reads
      rw [List.cons_append, Document.itemsToJson] at reads
      obtain ⟨_, _, reads⟩ := ok_of_bind reads
      obtain ⟨others, read, _⟩ := ok_of_bind reads
      exact ih others read

theorem membersToJson_fails {value : Document} (fails : value.Fails) (label : Label)
    (before : List (Label × Document)) (members : List (String × Json)) :
    Document.membersToJson (before ++ [(label, value)]) ≠ .ok members := by
  induction before generalizing members with
  | nil =>
      intro reads
      rw [List.nil_append, Document.membersToJson] at reads
      obtain ⟨_, _, reads⟩ := ok_of_bind reads
      obtain ⟨found, read, _⟩ := ok_of_bind reads
      exact fails found read
  | cons member rest ih =>
      intro reads
      rw [List.cons_append, Document.membersToJson] at reads
      obtain ⟨_, _, reads⟩ := ok_of_bind reads
      obtain ⟨_, _, reads⟩ := ok_of_bind reads
      obtain ⟨others, read, _⟩ := ok_of_bind reads
      exact ih others read

theorem fill_fails {value : Document} (fails : value.Fails) (ending : Ending) (frame : Frame) :
    (frame.fill value ending).Fails := by
  intro made reads
  cases frame with
  | list opening done =>
      rw [Frame.fill, Document.toJson] at reads
      obtain ⟨found, read, _⟩ := ok_of_parts Json.array reads
      exact itemsToJson_fails fails _ found read
  | record opening done label =>
      rw [Frame.fill, Document.toJson] at reads
      obtain ⟨found, read, _⟩ :=
        ok_of_parts (fun members => Json.object (Table.ofList members)) reads
      exact membersToJson_fails fails label _ found read

theorem fill_broken_fails (value : Document) (breach : Break) (frame : Frame) :
    (frame.fill value (.broken breach)).Fails := by
  cases frame with
  | list opening done => exact list_fails _ _ _
  | record opening done label => exact record_fails _ _ _

theorem unwind_fails {value : Document} (fails : value.Fails) (fault : Fault)
    (frames : List Frame) : (unwind value fault frames).Fails := by
  induction frames generalizing value with
  | nil => exact fails
  | cons frame outer ih => exact ih (fill_fails fails _ frame)

/-- After a token reading goes on only if the token is whole, and stops only with a fault. -/
def Progress.Follows (token : Token) : Progress → Prop
  | .more _ _ => token.isWhole = true
  | .done reading => reading.Fails

theorem finish_follows {value : Document} (fails : value.Fails) (token : Token) (fault : Fault)
    (frames : List Frame) : (finish value fault frames).Follows token :=
  .inl (unwind_fails fails fault frames)

theorem whole_of_scalar? {lexeme : Lexeme} {next : Place} {value : Document}
    (single : scalar? lexeme next = some value) : lexeme.token.isWhole = true := by
  unfold scalar? at single
  cases token : lexeme.token with
  | null | bool | number | string => rfl
  | _ =>
      rw [token] at single
      cases single

theorem stepValue_follows (lexeme : Lexeme) (next : Place) (frames : List Frame) :
    (stepValue lexeme next frames).Follows lexeme.token := by
  unfold stepValue
  split
  · rename_i single
    exact whole_of_scalar? single
  · split
    · rename_i token
      exact token ▸ rfl
    · rename_i token
      exact token ▸ rfl
    · exact finish_follows (broken_fails _ _ _) _ _ _
    · exact finish_follows (broken_fails _ _ _) _ _ _
    · exact finish_follows (broken_fails _ _ _) _ _ _

theorem stepKey_follows (opening : Opening) (lexeme : Lexeme) (next : Place)
    (done : List (Label × Document)) (frames : List Frame) :
    (stepKey opening lexeme next done frames).Follows lexeme.token := by
  unfold stepKey
  split
  · rename_i token
    exact token ▸ rfl
  · exact finish_follows (record_fails _ _ _) _ _ _
  · exact finish_follows (record_fails _ _ _) _ _ _

theorem step_follows (lexeme : Lexeme) (next : Place) (expect : Expect) (frames : List Frame) :
    (step lexeme next expect frames).Follows lexeme.token := by
  -- A case for each expectation, and in it one for each token that is no fault there.
  unfold step
  split
  · split
    · exact finish_follows (list_fails _ _ _) _ _ _
    · exact stepValue_follows lexeme next _
  · split
    · rename_i token
      exact token ▸ rfl
    · exact stepValue_follows lexeme next _
  · split
    · rename_i token
      exact token ▸ rfl
    · exact stepKey_follows _ lexeme next _ _
  · split
    · exact finish_follows (record_fails _ _ _) _ _ _
    · exact stepKey_follows _ lexeme next _ _
  · split
    · rename_i token
      exact token ▸ rfl
    · exact finish_follows (broken_fails _ _ _) _ _ _
  · split
    · rename_i token
      exact token ▸ rfl
    · rename_i token
      exact token ▸ rfl
    · exact finish_follows (fill_broken_fails _ _ _) _ _ _
    · rename_i token
      exact token ▸ rfl
    · rename_i token
      exact token ▸ rfl
    · exact finish_follows (fill_broken_fails _ _ _) _ _ _
    · exact .inr (Option.some_ne_none _)
  · exact .inr (Option.some_ne_none _)

theorem whole_of_assemble {last : Place} {expect : Expect} {frames : List Frame}
    {lexemes : List Lexeme} (reads : ¬ (assemble last expect frames lexemes).Fails) :
    ∀ lexeme ∈ lexemes, lexeme.token.isWhole = true := by
  induction lexemes generalizing expect frames with
  | nil => exact List.forall_mem_nil _
  | cons lexeme rest ih =>
      unfold assemble at reads
      extract_lets next at reads
      have follows := step_follows lexeme next expect frames
      cases progress : step lexeme next expect frames with
      | more later outer =>
          rw [progress] at follows reads
          exact List.forall_mem_cons.mpr ⟨follows, ih reads⟩
      | done reading =>
          rw [progress] at follows reads
          exact absurd follows reads

theorem read_of_ofText {text : String} {value : Json} (reads : ofText text = .ok value) :
    ¬ (Reading.ofText text).Fails := by
  obtain ⟨document, reading, read⟩ := reading_of_readText reads
  rw [reading]
  rintro (fails | trailing)
  · exact fails _ read
  · exact trailing rfl

/-- A text of tokens, at least one. -/
def Legible (text : String) : Prop :=
  (tokens text).1 ≠ [] ∧ ∀ lexeme ∈ (tokens text).1, lexeme.token.isWhole = true

/-- Every text that holds a value is legible. -/
theorem legible_of_ofText {text : String} {value : Json} (reads : ofText text = .ok value) :
    Legible text := by
  have succeeds := read_of_ofText reads
  refine ⟨?_, whole_of_assemble succeeds⟩
  intro none
  have empty : Reading.ofText text = atEnd (tokens text).2 .value [] := by
    simp only [Reading.ofText, none, assemble]
  rw [empty, atEnd] at succeeds
  · exact succeeds (.inl (unwind_fails (broken_fails _ _ _) _ _))
  · nofun

theorem Legible.ends {text : String} (legible : Legible text) :
    ∃ c rest, Text.trimChars text.toList = c :: rest ∧ c ≠ '\x60' ∧ c ≠ 'j' ∧
      (c :: rest).getLast? ≠ some '\x60' := by
  obtain ⟨before, c, rest, split, blank, busy, other⟩ := scanTokens_first legible.1 legible.2
  have apart : isBlank c = false ∧ c ≠ '\x60' := by simpa [isIdle] using busy
  obtain ⟨others, trimmed⟩ := Text.trimChars_first blank apart.1 rest
  rw [← split] at trimmed
  refine ⟨c, others, trimmed, apart.2, other, ?_⟩
  intro last
  obtain ⟨start, behind, _, blankBehind, whole, _⟩ := Text.trimChars_split text.toList
  rw [trimmed] at whole
  obtain ⟨body, ends⟩ := List.getLast?_eq_some_iff.mp last
  have ticked : EndsInTick text.toList := by
    refine ⟨start ++ body, behind, ?_, blankBehind⟩
    rw [whole, ends]
    simp
  obtain ⟨lexeme, listed, broken⟩ := scanTokens_broken (le_refl _) ticked
  exact absurd (broken.symm.trans (legible.2 lexeme listed)) Bool.false_ne_true

end Wireframe.Json
