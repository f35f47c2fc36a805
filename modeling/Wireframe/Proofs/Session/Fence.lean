import Wireframe.Session.Basic
import Wireframe.Proofs.Json.Legible
/-!
Code fences around the text of a tree. A text between blanks, and one in a code block whose fence is
closed or not, is found as it is, unless its own ends are taken for marks of the block. Those of a
JSON text never are, so a session renders it alike however it is wrapped.
-/

namespace Wireframe.Payload

open Text (AllBlank Tight isBlank)

theorem dropStart_append (start rest : List Char) : dropStart start (start ++ rest) = rest := by
  rw [dropStart, Text.after?_append, Option.getD_some]

theorem dropStart_apart {start cs : List Char} (apart : ¬ start <+: cs) :
    dropStart start cs = cs := by
  rw [dropStart, Text.after?_eq_none apart, Option.getD_none]

theorem dropStop_append (cs stop : List Char) : dropStop stop (cs ++ stop) = cs := by
  rw [dropStop, List.reverse_append, dropStart_append, List.reverse_reverse]

theorem dropStop_apart {stop cs : List Char} (apart : ¬ stop <:+ cs) : dropStop stop cs = cs := by
  rw [dropStop, dropStart_apart (mt List.reverse_prefix.mp apart), List.reverse_reverse]

def IsTag (tag : List Char) : Prop := tag = [] ∨ tag = fenceTag

theorem blank_apart {mark : List Char} (marks : ∀ c ∈ mark, isBlank c = false) {gap : List Char}
    (blank : AllBlank gap) : ∀ c ∈ gap.head?, c ∉ mark := by
  intro c first listed
  have spot := blank c (List.mem_of_mem_head? first)
  exact absurd ((marks c listed).symm.trans spot) Bool.false_ne_true

theorem fence_marks : ∀ c ∈ fence, isBlank c = false := by
  simp [fence, isBlank]

theorem fenceTag_marks : ∀ c ∈ fenceTag, isBlank c = false := by
  simp [fenceTag, isBlank]

theorem fence_apart {gap : List Char} (blank : AllBlank gap) (rest : List Char) :
    ∀ c ∈ (gap ++ (fence ++ rest)).head?, c ∉ fenceTag := by
  cases gap with
  | nil =>
      rintro c ⟨⟩
      decide
  | cons c others => exact fun first listed => blank_apart fenceTag_marks blank first listed

section

variable {source before behind : List Char} (tight : Tight source) (filled : source ≠ [])
  (blankBefore : AllBlank before) (blankBehind : AllBlank behind)

include tight filled blankBefore blankBehind

theorem unfencedChars_bare (bare : ¬ fence <+: source) :
    unfencedChars (before ++ (source ++ behind)) = source := by
  rw [unfencedChars, Text.trimChars_between blankBefore blankBehind tight filled,
    Text.after?_eq_none bare]

variable {tag gap : List Char} (isTag : IsTag tag) (blankGap : AllBlank gap)
  (untagged : tag = [] → gap = [] → ¬ fenceTag <+: source)

include isTag blankGap untagged

omit tight filled blankBefore blankBehind in
theorem dropStart_tag {rest : List Char} (ends : ∀ c ∈ rest.head?, c ∉ fenceTag) :
    dropStart fenceTag (tag ++ (gap ++ (source ++ rest))) = gap ++ (source ++ rest) := by
  rcases isTag with rfl | rfl
  · apply dropStart_apart
    cases gap with
    | nil => exact fun starts => untagged rfl rfl (Text.prefix_of_append starts ends)
    | cons c others =>
        have other : ∀ first ∈ (c :: others ++ (source ++ rest)).head?, first ∉ fenceTag :=
          fun first listed => blank_apart fenceTag_marks blankGap first listed
        intro starts
        have within : fenceTag <+: [] := Text.prefix_of_append starts other
        exact absurd within (by decide)
  · exact dropStart_append _ _

omit tight filled blankBefore blankBehind isTag blankGap untagged in
theorem unfencedChars_fenced {body : List Char} (blankBefore : AllBlank before)
    (blankBehind : AllBlank behind) (ends : ∀ c ∈ body.getLast?, isBlank c = false) :
    unfencedChars (before ++ (fence ++ body ++ behind)) =
      Text.trimChars (dropStop fence (dropStart fenceTag body)) := by
  have fenced : Tight (fence ++ body) := by
    constructor
    · rintro c ⟨⟩
      rfl
    · rw [List.getLast?_append]
      cases last : body.getLast? with
      | none =>
          rintro c ⟨⟩
          rfl
      | some c =>
          rw [last] at ends
          exact ends
  rw [unfencedChars, Text.trimChars_between blankBefore blankBehind fenced (List.cons_ne_nil _ _),
    Text.after?_append]

theorem unfencedChars_closed {last : List Char} (blankLast : AllBlank last) :
    unfencedChars (before ++ (fence ++ (tag ++ (gap ++ (source ++ (last ++ fence)))) ++ behind)) =
      source := by
  have ends : ∀ c ∈ (tag ++ (gap ++ (source ++ (last ++ fence)))).getLast?,
      isBlank c = false := by
    have mark : fence.getLast? = some '\x60' := rfl
    simp only [List.getLast?_append, mark, Option.some_or]
    rintro c ⟨⟩
    rfl
  have regroup : gap ++ (source ++ (last ++ fence)) = gap ++ (source ++ last) ++ fence := by simp
  rw [unfencedChars_fenced blankBefore blankBehind ends,
    dropStart_tag isTag blankGap untagged (by simpa using fence_apart blankLast []), regroup,
    dropStop_append, Text.trimChars_between blankGap blankLast tight filled]

theorem unfencedChars_open (unclosed : ¬ fence <:+ source) :
    unfencedChars (before ++ (fence ++ (tag ++ (gap ++ source)) ++ behind)) = source := by
  have ends : ∀ c ∈ (tag ++ (gap ++ source)).getLast?, isBlank c = false := by
    have last := List.getLast?_eq_some_getLast filled
    simp only [List.getLast?_append, last, Option.some_or]
    exact last ▸ tight.last
  have open' : ¬ fence <:+ gap ++ source := by
    intro closes
    have turned : fence.reverse <+: source.reverse ++ gap.reverse := by
      rw [← List.reverse_append]
      exact List.reverse_prefix.mpr closes
    have blank : AllBlank gap.reverse := fun c listed => blankGap c (List.mem_reverse.mp listed)
    have within := Text.prefix_of_append turned (blank_apart fence_marks blank)
    exact unclosed (List.reverse_prefix.mp within)
  have stripped : dropStart fenceTag (tag ++ (gap ++ (source ++ []))) = gap ++ (source ++ []) :=
    dropStart_tag isTag blankGap untagged (by simp)
  rw [List.append_nil] at stripped
  have trimmed := Text.trimChars_between blankGap (List.forall_mem_nil _) tight filled
  rw [List.append_nil] at trimmed
  rw [unfencedChars_fenced blankBefore blankBehind ends, stripped, dropStop_apart open', trimmed]

end

/-- What may stand around a source: blanks outside a code block, a tag, and blanks in the block. -/
structure Wrapping where
  before : String
  tag : String
  gap : String
  last : String
  behind : String
  tagged : IsTag tag.toList
  blankBefore : AllBlank before.toList
  blankGap : AllBlank gap.toList
  blankLast : AllBlank last.toList
  blankBehind : AllBlank behind.toList

namespace Wrapping

variable (wrapping : Wrapping) (source : String)

def bare : String := wrapping.before ++ source ++ wrapping.behind

def closed : String :=
  wrapping.before ++ "```" ++ wrapping.tag ++ wrapping.gap ++ source ++ wrapping.last ++ "```" ++
    wrapping.behind

def opened : String :=
  wrapping.before ++ "```" ++ wrapping.tag ++ wrapping.gap ++ source ++ wrapping.last ++
    wrapping.behind

def all : List String := [wrapping.bare source, wrapping.closed source, wrapping.opened source]

def widen (front back : String) (blankFront : AllBlank front.toList)
    (blankBack : AllBlank back.toList) : Wrapping where
  before := wrapping.before
  tag := wrapping.tag
  gap := wrapping.gap ++ front
  last := back ++ wrapping.last
  behind := wrapping.behind
  tagged := wrapping.tagged
  blankBefore := wrapping.blankBefore
  blankGap := by
    rw [String.toList_append]
    exact List.forall_mem_append.mpr ⟨wrapping.blankGap, blankFront⟩
  blankLast := by
    rw [String.toList_append]
    exact List.forall_mem_append.mpr ⟨blankBack, wrapping.blankLast⟩
  blankBehind := wrapping.blankBehind

end Wrapping

section

variable {source : String} (filled : source ≠ "") (tight : Tight source.toList)

include filled tight

theorem unfenced_between {before behind : String} (blankBefore : AllBlank before.toList)
    (blankBehind : AllBlank behind.toList) (plain : ¬ fence <+: source.toList) :
    unfenced (before ++ source ++ behind) = source := by
  have chars := unfencedChars_bare tight (by simpa using filled) blankBefore blankBehind plain
  rw [unfenced, String.toList_append, String.toList_append, List.append_assoc, chars,
    String.ofList_toList]

variable (wrapping : Wrapping)
  (untagged : wrapping.tag = "" → wrapping.gap = "" → ¬ fenceTag <+: source.toList)

include untagged

theorem unfenced_closed : unfenced (wrapping.closed source) = source := by
  have chars := unfencedChars_closed tight (by simpa using filled) wrapping.blankBefore
    wrapping.blankBehind wrapping.tagged wrapping.blankGap (by simpa using untagged)
    wrapping.blankLast
  have mark : "```".toList = fence := rfl
  have text : (wrapping.closed source).toList = wrapping.before.toList ++
      (fence ++ (wrapping.tag.toList ++ (wrapping.gap.toList ++ (source.toList ++
        (wrapping.last.toList ++ fence)))) ++ wrapping.behind.toList) := by
    simp [Wrapping.closed, mark]
  rw [unfenced, text, chars, String.ofList_toList]

theorem unfenced_opened (unclosed : ¬ fence <:+ source.toList) :
    unfenced (wrapping.opened source) = source := by
  have blank : AllBlank (wrapping.last.toList ++ wrapping.behind.toList) :=
    List.forall_mem_append.mpr ⟨wrapping.blankLast, wrapping.blankBehind⟩
  have chars := unfencedChars_open tight (by simpa using filled) wrapping.blankBefore blank
    wrapping.tagged wrapping.blankGap (by simpa using untagged) unclosed
  have mark : "```".toList = fence := rfl
  have text : (wrapping.opened source).toList = wrapping.before.toList ++
      (fence ++ (wrapping.tag.toList ++ (wrapping.gap.toList ++ source.toList)) ++
        (wrapping.last.toList ++ wrapping.behind.toList)) := by
    simp [Wrapping.opened, mark]
  rw [unfenced, text, chars, String.ofList_toList]

end

theorem render_of_toTree {env : Environment} {payload other : Payload} {session : Session}
    (same : payload.toTree = other.toTree) :
    session.render env payload = session.render env other := by
  unfold Session.render
  rw [same]

theorem Wrapping.unfenced_between_blanks (wrapping : Wrapping) {front inner back : String}
    (blankFront : AllBlank front.toList) (blankBack : AllBlank back.toList) (filled : inner ≠ "")
    (tight : Tight inner.toList) (plain : ¬ fence <+: inner.toList)
    (untagged : ¬ fenceTag <+: inner.toList) (unclosed : ¬ fence <:+ inner.toList) :
    ∀ wrapped ∈ wrapping.all (front ++ inner ++ back), unfenced wrapped = inner := by
  let widened := wrapping.widen front back blankFront blankBack
  intro wrapped listed
  simp only [Wrapping.all, List.mem_cons, List.not_mem_nil, or_false] at listed
  rcases listed with rfl | rfl | rfl
  · have blankBefore : AllBlank (wrapping.before ++ front).toList := by
      rw [String.toList_append]
      exact List.forall_mem_append.mpr ⟨wrapping.blankBefore, blankFront⟩
    have blankBehind : AllBlank (back ++ wrapping.behind).toList := by
      rw [String.toList_append]
      exact List.forall_mem_append.mpr ⟨blankBack, wrapping.blankBehind⟩
    have same : wrapping.bare (front ++ inner ++ back) =
        wrapping.before ++ front ++ inner ++ (back ++ wrapping.behind) := by
      simp [Wrapping.bare, String.append_assoc]
    rw [same]
    exact unfenced_between filled tight blankBefore blankBehind plain
  · have same : wrapping.closed (front ++ inner ++ back) = widened.closed inner := by
      simp [Wrapping.closed, widened, Wrapping.widen, String.append_assoc]
    rw [same]
    exact unfenced_closed filled tight widened fun _ _ => untagged
  · have same : wrapping.opened (front ++ inner ++ back) = widened.opened inner := by
      simp [Wrapping.opened, widened, Wrapping.widen, String.append_assoc]
    rw [same]
    exact unfenced_opened filled tight widened (fun _ _ => untagged) unclosed

theorem marks_of_legible {source : String} (legible : Json.Legible source) :
    Text.trim source ≠ "" ∧ ¬ fence <+: (Text.trim source).toList ∧
      ¬ fenceTag <+: (Text.trim source).toList ∧ ¬ fence <:+ (Text.trim source).toList := by
  obtain ⟨c, rest, trimmed, noTick, noTag, noEnd⟩ := legible.ends
  have chars : (Text.trim source).toList = c :: rest := by
    rw [Text.trim, String.toList_ofList, trimmed]
  rw [chars]
  refine ⟨?_, ?_, ?_, ?_⟩
  · intro empty
    rw [empty] at chars
    cases chars
  · exact fun starts => noTick (List.cons_prefix_cons.mp starts).1.symm
  · have letters : fenceTag = ['j', 's', 'o', 'n'] := rfl
    rw [letters]
    exact fun starts => noTag (List.cons_prefix_cons.mp starts).1.symm
  · rintro ⟨others, same⟩
    rw [← same, List.getLast?_append] at noEnd
    exact noEnd rfl

/-- All wrappings of a legible text leave the same of it, which is all of it if it has no blanks at
its ends. -/
theorem unfenced_legible (wrapping : Wrapping) {source : String} (legible : Json.Legible source) :
    ∃ inner, (Tight source.toList → inner = source) ∧ unfenced source = inner ∧
      ∀ wrapped ∈ wrapping.all source, unfenced wrapped = inner := by
  obtain ⟨filled, plain, untagged, unclosed⟩ := marks_of_legible legible
  obtain ⟨front, back, blankFront, blankBack, split, tight⟩ := Text.trim_split source
  refine ⟨Text.trim source, Text.trim_of_tight, ?_, ?_⟩
  · have alone := unfenced_between filled tight blankFront blankBack plain
    rwa [← split] at alone
  · have all := wrapping.unfenced_between_blanks blankFront blankBack filled tight plain untagged
      unclosed
    rwa [← split] at all

/-- A code fence around a source does not count, closed or not, unless the ends of the source are
taken for marks of it; and those of a JSON text never are. So every text that holds a value gives
the same tree however it is wrapped, and a session renders it alike. -/
theorem fences_are_transparent (wrapping : Wrapping) (source : String) :
    (source ≠ "" → Tight source.toList →
      (¬ fence <+: source.toList → unfenced (wrapping.bare source) = source) ∧
      ((wrapping.tag = "" → wrapping.gap = "" → ¬ fenceTag <+: source.toList) →
        unfenced (wrapping.closed source) = source ∧
        (¬ fence <:+ source.toList → unfenced (wrapping.opened source) = source))) ∧
    (∀ value, Json.ofText source = .ok value → Json.Legible source) ∧
    (Json.Legible source → ∀ wrapped ∈ wrapping.all source,
      (Payload.text wrapped).toTree = (Payload.text source).toTree ∧
      (Tight source.toList → (Payload.text wrapped).toTree = Json.ofText source) ∧
      ∀ (env : Environment) (session : Session),
        session.render env (.text wrapped) = session.render env (.text source)) := by
  refine ⟨?_, fun value => Json.legible_of_ofText, ?_⟩
  · intro filled tight
    refine ⟨unfenced_between filled tight wrapping.blankBefore wrapping.blankBehind, ?_⟩
    intro untagged
    exact ⟨unfenced_closed filled tight wrapping untagged,
      unfenced_opened filled tight wrapping untagged⟩
  · intro legible wrapped listed
    obtain ⟨inner, whole, alone, same⟩ := unfenced_legible wrapping legible
    have tree : (Payload.text wrapped).toTree = (Payload.text source).toTree := by
      rw [toTree, toTree, same wrapped listed, alone]
    refine ⟨tree, fun tight => ?_, fun env session => render_of_toTree tree⟩
    rw [toTree, same wrapped listed, whole tight]

/-- The fence stays open, and the list in it stands on a line of its own. -/
theorem fences_are_transparent_open :
    unfenced " ```json\n[]\n" = "[]" ∧ Json.ofText "[]" = .ok (.array []) ∧
      (Payload.text " ```json\n[]\n").toTree = .ok (.array []) := by
  have blank : AllBlank " ".toList ∧ AllBlank "\n".toList ∧ AllBlank "".toList := by
    simp [AllBlank, isBlank]
  let wrapping : Wrapping :=
    ⟨" ", "json", "\n", "\n", "", .inr rfl, blank.1, blank.2.1, blank.2.1, blank.2.2⟩
  have wrapped : wrapping.opened "[]" = " ```json\n[]\n" := by simp [Wrapping.opened, wrapping]
  have tight : Tight "[]".toList := by
    constructor <;> simp [isBlank]
  have unclosed : ¬ fence <:+ "[]".toList := by decide
  have reads : Json.ofText "[]" = .ok (.array []) := by cbv
  obtain ⟨found, legible, transparent⟩ := fences_are_transparent wrapping "[]"
  have source := ((found (by decide) tight).2 (by simp [wrapping])).2 unclosed
  have listed : wrapping.opened "[]" ∈ wrapping.all "[]" := by simp [Wrapping.all]
  have tree := (transparent (legible _ reads) _ listed).2.1 tight
  rw [wrapped] at source tree
  exact ⟨source, reads, tree.trans reads⟩

end Wireframe.Payload
