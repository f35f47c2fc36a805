import Wireframe.Json.Codec
import Wireframe.Proofs.Json.Assembly

namespace Wireframe.Json

/-- A text is scanned into tokens of these kinds where it is part of a longer text. -/
def Spells (text : String) (kinds : List Token) : Prop :=
  ∀ rest, Parted rest → Scanned (text.toList ++ rest) kinds rest

def Number.Prints (n m : Number) : Prop := Spells n.text [.number (.ok m)]

theorem parted_of_mark {c : Char} (mark : c = ',' ∨ c = ']' ∨ c = '\x7d') (rest : List Char) :
    Parted (c :: rest) := by
  intro other first
  cases first
  rcases mark with rfl | rfl | rfl <;> decide

def Blank (text : String) : Prop := ∀ c ∈ text.toList, isSpace c = true

theorem Blank.append {text other : String} (first : Blank text) (second : Blank other) :
    Blank (text ++ other) := by
  intro c listed
  rw [String.toList_append] at listed
  exact (List.mem_append.mp listed).elim (first c) (second c)

theorem blank_empty : Blank "" := List.forall_mem_nil _

theorem blank_space : Blank " " := by
  intro c listed
  obtain rfl : c = ' ' := by simpa using listed
  rfl

theorem blank_line : Blank "\n" := by
  intro c listed
  obtain rfl : c = '\n' := by simpa using listed
  rfl

theorem Blank.scanned {text : String} (blank : Blank text) (rest : List Char) :
    Scanned (text.toList ++ rest) [] rest := by
  unfold Blank at blank
  generalize text.toList = cs at blank
  induction cs with
  | nil => exact .done
  | cons c cs ih =>
      obtain ⟨space, blank⟩ := List.forall_mem_cons.mp blank
      exact .space space (ih blank)

theorem Blank.parted {text : String} (blank : Blank text) {rest : List Char}
    (parted : Parted rest) : Parted (text.toList ++ rest) := by
  unfold Blank at blank
  cases split : text.toList with
  | nil => exact parted
  | cons c cs =>
      have space : c = ' ' ∨ c = '\n' ∨ c = '\t' ∨ c = '\r' := by
        simpa [isSpace, or_assoc] using blank c (split ▸ List.mem_cons_self)
      intro other first
      cases first
      rcases space with rfl | rfl | rfl | rfl <;> decide

theorem Spells.between {before text behind : String} {kinds : List Token}
    (spelled : Spells text kinds) (blankBefore : Blank before) (blankBehind : Blank behind) :
    Spells (before ++ text ++ behind) kinds := by
  intro rest parted
  have inner := (spelled _ (blankBehind.parted parted)).append (blankBehind.scanned rest)
  have whole := (blankBefore.scanned _).append inner
  simpa using whole

theorem scanned_comma (rest : List Char) : Scanned (',' :: rest) [.comma] rest :=
  .single rfl rfl fun _ => ⟨_, rfl⟩

theorem scanned_colon (rest : List Char) : Scanned (':' :: rest) [.colon] rest :=
  .single rfl rfl fun _ => ⟨_, rfl⟩

theorem spells_joined {space : String} (blank : Blank space) {texts : List String}
    {parts : List (List Token)} (spelled : List.Forall₂ Spells texts parts) :
    Spells (("," ++ space).intercalate texts) ([Token.comma].intercalate parts) := by
  induction spelled with
  | nil => exact fun rest _ => .done
  | cons first spelled ih =>
      cases spelled with
      | nil =>
          rw [String.intercalate_singleton, List.intercalate_singleton]
          exact first
      | cons second spelled =>
          intro rest parted
          rw [String.intercalate_cons_cons, List.intercalate_cons_cons, List.append_assoc]
          have later := (blank.scanned _).append (ih rest parted)
          have behind := (scanned_comma _).append later
          have whole := (first _ (parted_of_mark (.inl rfl) _)).append behind
          simpa using whole

theorem spells_bracketed {opening closing : Char} {openToken closeToken : Token} {text : String}
    {kinds : List Token} (spelled : Spells text kinds)
    (opens : ∀ rest, Scanned (opening :: rest) [openToken] rest)
    (closes : ∀ rest, Scanned (closing :: rest) [closeToken] rest)
    (mark : closing = ',' ∨ closing = ']' ∨ closing = '\x7d') :
    Spells (String.ofList [opening] ++ text ++ String.ofList [closing])
      (openToken :: (kinds ++ [closeToken])) := by
  intro rest _
  have inner := (spelled _ (parted_of_mark mark rest)).append (closes rest)
  have whole := (opens _).append inner
  simpa using whole

theorem spells_member {space text : String} {kinds : List Token} (blank : Blank space)
    (spelled : Spells text kinds) (key : String) :
    Spells (quote key ++ ":" ++ space ++ text) (.string (.ok key) :: .colon :: kinds) := by
  intro rest parted
  have later := (blank.scanned _).append (spelled rest parted)
  have whole := (scanned_quote key _).append ((scanned_colon _).append later)
  simpa using whole

/-- The blanks inside the brackets of a list or object: before each part, behind the last one, and
behind each colon. -/
structure Gaps where
  before : String
  behind : String
  colon : String
  blankBefore : Blank before
  blankBehind : Blank behind
  blankColon : Blank colon

namespace Gaps

def none : Gaps := ⟨"", "", "", blank_empty, blank_empty, blank_empty⟩

def lines {indent : String} (blank : Blank indent) : Gaps where
  before := "\n" ++ indent ++ "  "
  behind := "\n" ++ indent
  colon := " "
  blankBefore := (blank_line.append blank).append (blank_space.append blank_space)
  blankBehind := blank_line.append blank
  blankColon := blank_space

variable (gaps : Gaps)

def around (opening closing : Char) (parts : List String) : String :=
  String.ofList [opening] ++ (gaps.before ++ ("," ++ gaps.before).intercalate parts ++ gaps.behind)
    ++ String.ofList [closing]

def member (key text : String) : String := quote key ++ ":" ++ gaps.colon ++ text

end Gaps

theorem compactItems_eq (items : List Json) : compactItems items = items.map compact := by
  induction items with
  | nil => rfl
  | cons item items ih => rw [compactItems, ih, List.map_cons]

theorem compactMembers_eq (members : List (String × Json)) :
    compactMembers members =
      members.map fun member => quote member.1 ++ ":" ++ compact member.2 := by
  induction members with
  | nil => rfl
  | cons member members ih => rw [compactMembers, ih, List.map_cons]

theorem exists_parts {α β : Type} {P : α → β → Prop} {items : List α}
    (each : ∀ item ∈ items, ∃ part, P item part) : ∃ parts, List.Forall₂ P items parts := by
  induction items with
  | nil => exact ⟨[], .nil⟩
  | cons item items ih =>
      obtain ⟨part, first⟩ := each item List.mem_cons_self
      obtain ⟨parts, others⟩ := ih fun other listed => each other (List.mem_cons_of_mem _ listed)
      exact ⟨part :: parts, .cons first others⟩

variable {R : Number → Number → Prop} {depth : Nat}

section

variable {print : Json → String} (gaps : Gaps)

theorem spells_list {items : List Json}
    (each : ∀ item ∈ items, ∃ kinds, Spells (print item) kinds ∧ Builds R depth item kinds) :
    ∃ kinds, Spells (gaps.around '[' ']' (items.map print)) kinds ∧
      Builds R (depth + 1) (.array items) kinds := by
  obtain ⟨parts, each⟩ := exists_parts each
  have joined := spells_joined gaps.blankBefore
    (List.forall₂_map_left_iff.mpr (each.imp fun _ _ => And.left))
  have inner := joined.between gaps.blankBefore gaps.blankBehind
  refine ⟨_, ?_, builds_array (each.imp fun _ _ => And.right)⟩
  exact spells_bracketed inner (fun _ => .single rfl rfl fun _ => ⟨_, rfl⟩)
    (fun _ => .single rfl rfl fun _ => ⟨_, rfl⟩) (.inr (.inl rfl))

theorem spells_object {members : List (String × Json)}
    (each : ∀ member ∈ members, ∃ kinds, Spells (print member.2) kinds ∧
      Builds R depth member.2 kinds) :
    ∃ kinds, Spells (gaps.around '\x7b' '\x7d'
        (members.map fun member => gaps.member member.1 (print member.2))) kinds ∧
      Builds R (depth + 1) (.object members) kinds := by
  have keyed : ∀ member ∈ members, ∃ part,
      Spells (gaps.member member.1 (print member.2)) part ∧ BuildsMember R depth member part := by
    intro member listed
    obtain ⟨kinds, spelled, builds⟩ := each member listed
    exact ⟨_, spells_member gaps.blankColon spelled member.1, kinds, rfl, builds⟩
  obtain ⟨parts, each⟩ := exists_parts keyed
  have joined := spells_joined gaps.blankBefore
    (List.forall₂_map_left_iff.mpr (each.imp fun _ _ => And.left))
  have inner := joined.between gaps.blankBefore gaps.blankBehind
  refine ⟨_, ?_, builds_object (each.imp fun _ _ => And.right)⟩
  exact spells_bracketed inner (fun _ => .single rfl rfl fun _ => ⟨_, rfl⟩)
    (fun _ => .single rfl rfl fun _ => ⟨_, rfl⟩) (.inr (.inr rfl))

end

theorem compact_array (items : List Json) :
    compact (.array items) = Gaps.none.around '[' ']' (items.map compact) := by
  simp [compact, compactItems_eq, Gaps.around, Gaps.none]

theorem compact_object (members : List (String × Json)) :
    compact (.object members) = Gaps.none.around '\x7b' '\x7d'
      (members.map fun member => Gaps.none.member member.1 member.2.compact) := by
  simp [compact, compactMembers_eq, Gaps.around, Gaps.none, Gaps.member]

/-- The text of a value is scanned into tokens that are assembled into a document of it. -/
theorem Plain.spells (prints : ∀ n m, R n m → n.Prints m) {value : Json}
    (plain : Plain R depth value) :
    ∃ kinds, Spells value.compact kinds ∧ Builds R depth value kinds := by
  induction plain with
  | null => exact ⟨_, fun rest _ => scanned_null rest, builds_null⟩
  | bool value => exact ⟨_, fun rest _ => scanned_bool value rest, builds_bool value⟩
  | number reads => exact ⟨_, prints _ _ reads, builds_number reads⟩
  | string value => exact ⟨_, fun rest _ => scanned_quote value rest, builds_string value⟩
  | array _ ih =>
      rw [compact_array]
      exact spells_list Gaps.none ih
  | object _ ih =>
      rw [compact_object]
      exact spells_object Gaps.none ih

theorem prettyItems_eq (indent : String) (items : List Json) :
    prettyItems indent items = items.map (prettyAt indent) := by
  induction items with
  | nil => rfl
  | cons item items ih => rw [prettyItems, ih, List.map_cons]

theorem prettyMembers_eq {gaps : Gaps} (colon : gaps.colon = " ") (indent : String)
    (members : List (String × Json)) :
    prettyMembers indent members =
      members.map fun member => gaps.member member.1 (prettyAt indent member.2) := by
  induction members with
  | nil => rfl
  | cons member members ih =>
      have mark : quote member.1 ++ ":" ++ " " = quote member.1 ++ ": " := String.append_assoc
      rw [prettyMembers, ih, List.map_cons, Gaps.member, colon, mark]

theorem block_eq {indent : String} (blank : Blank indent) (opening closing : Char)
    (parts : List String) :
    ∃ gaps : Gaps, gaps.colon = " " ∧
      block (String.ofList [opening]) (String.ofList [closing]) indent parts =
        gaps.around opening closing parts := by
  cases parts with
  | nil =>
      refine ⟨⟨"", "", " ", blank_empty, blank_empty, blank_space⟩, rfl, ?_⟩
      simp [block, Gaps.around]
  | cons part parts =>
      refine ⟨Gaps.lines blank, rfl, ?_⟩
      simp only [block, Gaps.around, Gaps.lines, String.append_assoc]

theorem Plain.spells_pretty (prints : ∀ n m, R n m → n.Prints m) {value : Json}
    (plain : Plain R depth value) {indent : String} (blank : Blank indent) :
    ∃ kinds, Spells (prettyAt indent value) kinds ∧ Builds R depth value kinds := by
  induction plain generalizing indent with
  | null => exact ⟨_, fun rest _ => scanned_null rest, builds_null⟩
  | bool value => exact ⟨_, fun rest _ => scanned_bool value rest, builds_bool value⟩
  | number reads => exact ⟨_, prints _ _ reads, builds_number reads⟩
  | string value => exact ⟨_, fun rest _ => scanned_quote value rest, builds_string value⟩
  | array _ ih =>
      have deeper : Blank (indent ++ "  ") := blank.append (blank_space.append blank_space)
      rw [prettyAt, prettyItems_eq]
      obtain ⟨gaps, _, spread⟩ := block_eq blank '[' ']' _
      exact spread ▸ spells_list gaps fun item listed => ih item listed deeper
  | object _ ih =>
      have deeper : Blank (indent ++ "  ") := blank.append (blank_space.append blank_space)
      obtain ⟨gaps, colon, spread⟩ :=
        block_eq blank '\x7b' '\x7d' (prettyMembers (indent ++ "  ") _)
      have spelled := spells_object gaps fun member listed => ih member listed deeper
      rw [← prettyMembers_eq colon, ← spread] at spelled
      rw [prettyAt]
      exact spelled

/-- Reading a text that is spelled as a value gives a document of it with nothing behind. -/
theorem Builds.reading {value : Json} {text : String} {kinds : List Token}
    (built : Builds R depth value kinds) (spelled : Spells text kinds)
    (shallow : depth ≤ depthLimit) :
    ∃ document, Shows R value document ∧ Reading.ofText text = ⟨document, none⟩ := by
  have scanned := spelled [] nofun
  rw [List.append_nil] at scanned
  have level : ([] : List Frame).length + depth ≤ depthLimit := by simpa using shallow
  obtain ⟨document, shows, assembled⟩ := built.assembled (tokens text).2 [] (tokens text).1 []
    (tokens_of_scanned scanned) level
  rw [List.append_nil] at assembled
  exact ⟨document, shows, assembled⟩

theorem Plain.reading (prints : ∀ n m, R n m → n.Prints m) {value : Json}
    (plain : Plain R depth value) (shallow : depth ≤ depthLimit) :
    ∃ document, Shows R value document ∧ Reading.ofText value.compact = ⟨document, none⟩ := by
  obtain ⟨_, spelled, built⟩ := plain.spells prints
  exact built.reading spelled shallow

theorem Plain.reading_pretty (prints : ∀ n m, R n m → n.Prints m) {value : Json}
    (plain : Plain R depth value) (shallow : depth ≤ depthLimit) :
    ∃ document, Shows R value document ∧ Reading.ofText value.pretty = ⟨document, none⟩ := by
  obtain ⟨_, spelled, built⟩ := plain.spells_pretty prints blank_empty
  exact built.reading spelled shallow

end Wireframe.Json
