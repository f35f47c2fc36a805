import Mathlib.Data.List.Forall2
import Wireframe.Json.Document
import Wireframe.Proofs.Json.Scanned

namespace Wireframe.Json

variable {R : Number → Number → Prop} {depth : Nat} {last : Place}

/-- A document shows a value: it has its parts in their order, and each number stands for the one it
is read as. -/
inductive Shows (R : Number → Number → Prop) : Json → Document → Prop
  | null (span : Span) : Shows R .null (.null span)
  | bool (value : Bool) (span : Span) : Shows R (.bool value) (.bool value span)
  | number {n m : Number} (reads : R n m) (span : Span) :
      Shows R (.number n) (.number (.ok m) span)
  | string (value : String) (span : Span) : Shows R (.string value) (.string (.ok value) span)
  | array {items : List Json} {documents : List Document} {opening : Opening} (stop : Option Place)
      (shallow : opening.limit = none) (shown : List.Forall₂ (Shows R) items documents) :
      Shows R (.array items) (.list opening documents (.closed stop))
  | object {members : List (String × Json)} {entries : List (Label × Document)} {opening : Opening}
      (stop : Option Place) (shallow : opening.limit = none)
      (keys : List.Forall₂ (fun member entry => entry.1.key = .ok member.1) members entries)
      (shown : List.Forall₂ (fun member entry => Shows R member.2 entry.2) members entries) :
      Shows R (.object members) (.record opening entries (.closed stop))

/-- A value whose numbers are read as some number, with at most so many lists and objects inside
each other. -/
inductive Plain (R : Number → Number → Prop) : Nat → Json → Prop
  | null {depth : Nat} : Plain R depth .null
  | bool {depth : Nat} (value : Bool) : Plain R depth (.bool value)
  | number {depth : Nat} {n m : Number} (reads : R n m) : Plain R depth (.number n)
  | string {depth : Nat} (value : String) : Plain R depth (.string value)
  | array {depth : Nat} {items : List Json} (plain : ∀ item ∈ items, Plain R depth item) :
      Plain R (depth + 1) (.array items)
  | object {depth : Nat} {members : List (String × Json)}
      (plain : ∀ member ∈ members, Plain R depth member.2) : Plain R (depth + 1) (.object members)

def Progress.run (last : Place) (lexemes : List Lexeme) : Progress → Reading
  | .more expect frames => assemble last expect frames lexemes
  | .done reading => reading

theorem assemble_cons (last : Place) (lexeme : Lexeme) (more : List Lexeme) :
    ∃ next, ∀ expect frames, assemble last expect frames (lexeme :: more) =
      (step lexeme next expect frames).run last more :=
  ⟨_, fun _ _ => rfl⟩

/-- The tokens of a value are assembled into a document that shows it. -/
structure Builds (R : Number → Number → Prop) (depth : Nat) (value : Json) (kinds : List Token) :
    Prop where
  starts : ∃ first rest, kinds = first :: rest ∧ first ≠ .closeList
  assembled : ∀ (last : Place) (frames : List Frame) (lexemes more : List Lexeme),
    lexemes.map Lexeme.token = kinds → frames.length + depth ≤ depthLimit →
    ∃ document, Shows R value document ∧
      assemble last .value frames (lexemes ++ more) =
        assemble last (complete document frames) frames more

theorem complete_within (document : Document) (frame : Frame) (frames : List Frame) :
    complete document (frame :: frames) = .commaOrEnd document := rfl

section

variable {lexeme : Lexeme} {next : Place} {opening : Opening} {frames : List Frame}

theorem step_value (other : lexeme.token ≠ .closeList) :
    step lexeme next .value frames = stepValue lexeme next frames := by
  unfold step
  cases frames with
  | nil => rfl
  | cons frame outer =>
      cases frame with
      | list => cases kind : lexeme.token <;> first | rfl | contradiction
      | record => rfl

theorem step_openList (kind : lexeme.token = .openList) :
    step lexeme next .value frames =
      .more (.valueOrEnd (Opening.at lexeme frames.length)) frames := by
  rw [step_value (by rw [kind]; nofun), stepValue, scalar?, kind]

theorem step_first (other : lexeme.token ≠ .closeList) :
    step lexeme next (.valueOrEnd opening) frames =
      step lexeme next .value (.list opening [] :: frames) := by
  rw [step_value other]
  unfold step
  cases kind : lexeme.token <;> first | rfl | contradiction

theorem step_emptyList (kind : lexeme.token = .closeList) :
    step lexeme next (.valueOrEnd opening) frames =
      .more (complete (.list opening [] (.closed (some lexeme.stop))) frames) frames := by
  unfold step
  rw [kind]

variable {done : List Document} {document : Document}

theorem step_item (kind : lexeme.token = .comma) :
    step lexeme next (.commaOrEnd document) (.list opening done :: frames) =
      .more .value (.list opening (document :: done) :: frames) := by
  unfold step
  rw [kind]

theorem step_closeList (kind : lexeme.token = .closeList) :
    step lexeme next (.commaOrEnd document) (.list opening done :: frames) =
      .more (complete (.list opening (done.reverse ++ [document]) (.closed (some lexeme.stop)))
        frames) frames := by
  unfold step
  rw [kind]
  rfl

variable {entries : List (Label × Document)} {label : Label} {key : String}

theorem step_openObject (kind : lexeme.token = .openObject) :
    step lexeme next .value frames =
      .more (.keyOrEnd (Opening.at lexeme frames.length)) frames := by
  rw [step_value (by rw [kind]; nofun), stepValue, scalar?, kind]

theorem step_firstKey (kind : lexeme.token = .string (.ok key)) :
    step lexeme next (.keyOrEnd opening) frames = step lexeme next (.key opening []) frames := by
  unfold step
  rw [kind]

theorem step_emptyObject (kind : lexeme.token = .closeObject) :
    step lexeme next (.keyOrEnd opening) frames =
      .more (complete (.record opening [] (.closed (some lexeme.stop))) frames) frames := by
  unfold step
  rw [kind]

theorem step_key (kind : lexeme.token = .string (.ok key)) :
    step lexeme next (.key opening entries) frames =
      .more (.colon opening entries ⟨.ok key, some lexeme.stop, some next⟩) frames := by
  unfold step stepKey
  rw [kind]

theorem step_colon (kind : lexeme.token = .colon) :
    step lexeme next (.colon opening entries label) frames =
      .more .value (.record opening entries label :: frames) := by
  unfold step
  rw [kind]

theorem step_member (kind : lexeme.token = .comma) :
    step lexeme next (.commaOrEnd document) (.record opening entries label :: frames) =
      .more (.key opening ((label, document) :: entries)) frames := by
  unfold step
  rw [kind]

theorem step_closeObject (kind : lexeme.token = .closeObject) :
    step lexeme next (.commaOrEnd document) (.record opening entries label :: frames) =
      .more (complete (.record opening (entries.reverse ++ [(label, document)])
        (.closed (some lexeme.stop))) frames) frames := by
  unfold step
  rw [kind]
  rfl

end

theorem builds_scalar {value : Json} {kind : Token} (other : kind ≠ .closeList)
    (shown : ∀ lexeme next, lexeme.token = kind → ∃ document, scalar? lexeme next = some document ∧
      Shows R value document) : Builds R depth value [kind] := by
  refine ⟨⟨kind, [], rfl, other⟩, ?_⟩
  intro last frames lexemes more spelled _
  obtain ⟨lexeme, rfl, one⟩ := List.map_eq_singleton_iff.mp spelled
  obtain ⟨next, stepped⟩ := assemble_cons last lexeme more
  obtain ⟨document, single, shows⟩ := shown lexeme next one
  refine ⟨document, shows, ?_⟩
  rw [List.singleton_append, stepped, step_value (one ▸ other), stepValue, single]
  rfl

theorem builds_null : Builds R depth .null [.null] :=
  builds_scalar nofun fun lexeme next kind =>
    ⟨_, by rw [scalar?, kind], .null _⟩

theorem builds_bool (value : Bool) : Builds R depth (.bool value) [.bool value] :=
  builds_scalar nofun fun lexeme next kind =>
    ⟨_, by rw [scalar?, kind], .bool value _⟩

theorem builds_number {n m : Number} (reads : R n m) :
    Builds R depth (.number n) [.number (.ok m)] :=
  builds_scalar nofun fun lexeme next kind =>
    ⟨_, by rw [scalar?, kind], .number reads _⟩

theorem builds_string (value : String) : Builds R depth (.string value) [.string (.ok value)] :=
  builds_scalar nofun fun lexeme next kind =>
    ⟨_, by rw [scalar?, kind], .string value _⟩

theorem split_parts {part second : List Token} {others : List (List Token)} {inner : List Lexeme}
    (spelled : inner.map Lexeme.token = [Token.comma].intercalate (part :: second :: others)) :
    ∃ first comma rest, inner = first ++ comma :: rest ∧ first.map Lexeme.token = part ∧
      comma.token = .comma ∧
      rest.map Lexeme.token = [Token.comma].intercalate (second :: others) := by
  rw [List.intercalate_cons_cons, List.append_assoc, List.singleton_append] at spelled
  obtain ⟨first, later, rfl, firstKinds, laterKinds⟩ := List.map_eq_append_iff.mp spelled
  obtain ⟨comma, rest, rfl, kind, restKinds⟩ := List.map_eq_cons_iff.mp laterKinds
  exact ⟨first, comma, rest, rfl, firstKinds, kind, restKinds⟩

theorem starts_parts {first : Token} {part : List Token} {parts : List (List Token)}
    {inner : List Lexeme}
    (spelled : inner.map Lexeme.token = [Token.comma].intercalate ((first :: part) :: parts)) :
    ∃ start rest, inner = start :: rest ∧ start.token = first := by
  have begins : ∃ rest, [Token.comma].intercalate ((first :: part) :: parts) = first :: rest := by
    cases parts with
    | nil => exact ⟨part, List.intercalate_singleton⟩
    | cons second others => exact ⟨_, List.intercalate_cons_cons⟩
  obtain ⟨rest, begins⟩ := begins
  rw [begins] at spelled
  obtain ⟨start, rest, split, kind, _⟩ := List.map_eq_cons_iff.mp spelled
  exact ⟨start, rest, split, kind⟩

theorem assemble_items {items : List Json} {parts : List (List Token)} {opening : Opening}
    {frames : List Frame} {inner : List Lexeme} {close : Lexeme}
    (built : List.Forall₂ (Builds R depth) items parts) (filled : items ≠ [])
    (spelled : inner.map Lexeme.token = [Token.comma].intercalate parts)
    (ends : close.token = .closeList) (shallow : frames.length + 1 + depth ≤ depthLimit)
    (done : List Document) (more : List Lexeme) :
    ∃ documents stop, List.Forall₂ (Shows R) items documents ∧
      assemble last .value (.list opening done :: frames) (inner ++ close :: more) =
        assemble last (complete (.list opening (done.reverse ++ documents) (.closed stop)) frames)
          frames more := by
  -- Each item is assembled inside the list that has those before it as `done`.
  induction built generalizing inner done with
  | nil => exact absurd rfl filled
  | @cons item part items parts builds built ih =>
      cases built with
      | nil =>
          rw [List.intercalate_singleton] at spelled
          obtain ⟨document, shows, assembled⟩ := builds.assembled last
            (.list opening done :: frames) inner (close :: more) spelled shallow
          obtain ⟨next, stepped⟩ := assemble_cons last close more
          refine ⟨[document], some close.stop, .cons shows .nil, assembled.trans ?_⟩
          rw [complete_within, stepped, step_closeList ends]
          rfl
      | cons second built =>
          obtain ⟨first, comma, rest, rfl, firstKinds, kind, restKinds⟩ := split_parts spelled
          obtain ⟨document, shows, assembled⟩ := builds.assembled last
            (.list opening done :: frames) first (comma :: (rest ++ close :: more)) firstKinds
            shallow
          obtain ⟨next, stepped⟩ := assemble_cons last comma (rest ++ close :: more)
          obtain ⟨documents, stop, shown, later⟩ :=
            ih (List.cons_ne_nil _ _) restKinds (document :: done)
          refine ⟨document :: documents, stop, .cons shows shown, ?_⟩
          rw [List.append_assoc, List.cons_append, assembled, complete_within, stepped,
            step_item kind]
          rw [List.reverse_cons, List.append_assoc, List.singleton_append] at later
          exact later

theorem Opening.limit_at {lexeme : Lexeme} {level : Nat} (shallow : level < depthLimit) :
    (Opening.at lexeme level).limit = none :=
  if_pos shallow

theorem builds_array {items : List Json} {parts : List (List Token)}
    (built : List.Forall₂ (Builds R depth) items parts) :
    Builds R (depth + 1) (.array items)
      (.openList :: ([Token.comma].intercalate parts ++ [.closeList])) := by
  refine ⟨⟨_, _, rfl, nofun⟩, ?_⟩
  intro last frames lexemes more spelled shallow
  obtain ⟨start, body, rfl, opens, bodyKinds⟩ := List.map_eq_cons_iff.mp spelled
  obtain ⟨inner, tail, rfl, innerKinds, tailKinds⟩ := List.map_eq_append_iff.mp bodyKinds
  obtain ⟨close, rfl, ends⟩ := List.map_eq_singleton_iff.mp tailKinds
  have level : (Opening.at start frames.length).limit = none := Opening.limit_at (by omega)
  have below : frames.length + 1 + depth ≤ depthLimit := by omega
  rw [List.cons_append, List.append_assoc, List.singleton_append]
  obtain ⟨next, stepped⟩ := assemble_cons last start (inner ++ close :: more)
  rw [stepped, step_openList opens]
  cases built with
  | nil =>
      obtain rfl := List.map_eq_nil_iff.mp innerKinds
      obtain ⟨next, stepped⟩ := assemble_cons last close more
      refine ⟨_, .array (some close.stop) level .nil, ?_⟩
      exact (stepped _ _).trans (by rw [step_emptyList ends]; rfl)
  | @cons _ part _ _ builds built =>
      obtain ⟨first, others, rfl, other⟩ := builds.starts
      obtain ⟨documents, stop, shown, assembled⟩ :=
        assemble_items (.cons builds built) (List.cons_ne_nil _ _) innerKinds ends below [] more
      refine ⟨_, .array stop level shown, Eq.trans ?_ assembled⟩
      obtain ⟨start, rest, rfl, kind⟩ := starts_parts innerKinds
      obtain ⟨next, stepped⟩ := assemble_cons last start (rest ++ close :: more)
      rw [Progress.run, List.cons_append, stepped, stepped, step_first (kind ▸ other)]

def BuildsMember (R : Number → Number → Prop) (depth : Nat) (member : String × Json)
    (kinds : List Token) : Prop :=
  ∃ rest, kinds = .string (.ok member.1) :: .colon :: rest ∧ Builds R depth member.2 rest

theorem BuildsMember.assembled {member : String × Json} {kinds : List Token}
    {opening : Opening} {frames : List Frame} {lexemes : List Lexeme}
    (builds : BuildsMember R depth member kinds) (spelled : lexemes.map Lexeme.token = kinds)
    (shallow : frames.length + 1 + depth ≤ depthLimit) (done : List (Label × Document))
    (last : Place) (more : List Lexeme) :
    ∃ label document, label.key = .ok member.1 ∧ Shows R member.2 document ∧
      assemble last (.key opening done) frames (lexemes ++ more) =
        assemble last (.commaOrEnd document) (.record opening done label :: frames) more := by
  obtain ⟨rest, rfl, builds⟩ := builds
  obtain ⟨key, others, rfl, keyKind, otherKinds⟩ := List.map_eq_cons_iff.mp spelled
  obtain ⟨colon, body, rfl, colonKind, bodyKinds⟩ := List.map_eq_cons_iff.mp otherKinds
  obtain ⟨next, keyed⟩ := assemble_cons last key (colon :: (body ++ more))
  obtain ⟨_, stepped⟩ := assemble_cons last colon (body ++ more)
  let label : Label := ⟨.ok member.1, some key.stop, some next⟩
  obtain ⟨document, shows, assembled⟩ := builds.assembled last
    (.record opening done label :: frames) body more bodyKinds shallow
  refine ⟨label, document, rfl, shows, ?_⟩
  rw [List.cons_append, List.cons_append, keyed, step_key keyKind, Progress.run, stepped,
    step_colon colonKind, Progress.run, assembled, complete_within]

theorem assemble_members {members : List (String × Json)} {parts : List (List Token)}
    {opening : Opening} {frames : List Frame} {inner : List Lexeme} {close : Lexeme}
    (built : List.Forall₂ (BuildsMember R depth) members parts) (filled : members ≠ [])
    (spelled : inner.map Lexeme.token = [Token.comma].intercalate parts)
    (ends : close.token = .closeObject) (shallow : frames.length + 1 + depth ≤ depthLimit)
    (done : List (Label × Document)) (more : List Lexeme) :
    ∃ entries stop, List.Forall₂ (fun member entry => entry.1.key = .ok member.1 ∧
        Shows R member.2 entry.2) members entries ∧
      assemble last (.key opening done) frames (inner ++ close :: more) =
        assemble last (complete (.record opening (done.reverse ++ entries) (.closed stop)) frames)
          frames more := by
  induction built generalizing inner done with
  | nil => exact absurd rfl filled
  | cons builds built ih =>
      cases built with
      | nil =>
          rw [List.intercalate_singleton] at spelled
          obtain ⟨label, document, keyed, shows, assembled⟩ :=
            builds.assembled spelled shallow done last (close :: more)
          obtain ⟨next, stepped⟩ := assemble_cons last close more
          refine ⟨[(label, document)], some close.stop, .cons ⟨keyed, shows⟩ .nil, ?_⟩
          rw [assembled, stepped, step_closeObject ends]
          rfl
      | cons second built =>
          obtain ⟨lexemes, comma, rest, rfl, kinds, kind, restKinds⟩ := split_parts spelled
          obtain ⟨label, document, keyed, shows, assembled⟩ :=
            builds.assembled kinds shallow done last (comma :: (rest ++ close :: more))
          obtain ⟨next, stepped⟩ := assemble_cons last comma (rest ++ close :: more)
          obtain ⟨entries, stop, shown, later⟩ :=
            ih (List.cons_ne_nil _ _) restKinds ((label, document) :: done)
          refine ⟨(label, document) :: entries, stop, .cons ⟨keyed, shows⟩ shown, ?_⟩
          rw [List.append_assoc, List.cons_append, assembled, stepped, step_member kind]
          rw [List.reverse_cons, List.append_assoc, List.singleton_append] at later
          exact later

theorem builds_object {members : List (String × Json)} {parts : List (List Token)}
    (built : List.Forall₂ (BuildsMember R depth) members parts) :
    Builds R (depth + 1) (.object members)
      (.openObject :: ([Token.comma].intercalate parts ++ [.closeObject])) := by
  refine ⟨⟨_, _, rfl, nofun⟩, ?_⟩
  intro last frames lexemes more spelled shallow
  obtain ⟨start, body, rfl, opens, bodyKinds⟩ := List.map_eq_cons_iff.mp spelled
  obtain ⟨inner, tail, rfl, innerKinds, tailKinds⟩ := List.map_eq_append_iff.mp bodyKinds
  obtain ⟨close, rfl, ends⟩ := List.map_eq_singleton_iff.mp tailKinds
  have level : (Opening.at start frames.length).limit = none := Opening.limit_at (by omega)
  have below : frames.length + 1 + depth ≤ depthLimit := by omega
  rw [List.cons_append, List.append_assoc, List.singleton_append]
  obtain ⟨next, stepped⟩ := assemble_cons last start (inner ++ close :: more)
  rw [stepped, step_openObject opens]
  cases built with
  | nil =>
      obtain rfl := List.map_eq_nil_iff.mp innerKinds
      obtain ⟨next, stepped⟩ := assemble_cons last close more
      refine ⟨_, .object (some close.stop) level .nil .nil, ?_⟩
      exact (stepped _ _).trans (by rw [step_emptyObject ends]; rfl)
  | cons builds built =>
      obtain ⟨_, rfl, _⟩ := id builds
      obtain ⟨entries, stop, shown, assembled⟩ :=
        assemble_members (.cons builds built) (List.cons_ne_nil _ _) innerKinds ends below [] more
      refine ⟨_, .object stop level (shown.imp fun _ _ => And.left)
        (shown.imp fun _ _ => And.right), Eq.trans ?_ assembled⟩
      obtain ⟨start, rest, rfl, kind⟩ := starts_parts innerKinds
      obtain ⟨next, stepped⟩ := assemble_cons last start (rest ++ close :: more)
      rw [Progress.run, List.cons_append, stepped, stepped, step_firstKey kind]

end Wireframe.Json
