import Mathlib.Tactic.MkIffOfInductiveProp
import Wireframe.Proofs.Binary.Text
import Wireframe.Proofs.Text.Quoted
import Wireframe.Scene.Outline

namespace Wireframe

open Binary (singleText)

@[mk_iff]
structure Clean (word : List Char) : Prop where
  blankless : ' ' ∉ word
  quoteless : '"' ∉ word
  breakless : '\n' ∉ word

instance (word : List Char) : Decidable (Clean word) := decidable_of_iff' _ (clean_iff word)

theorem Clean.append {front back : List Char} (first : Clean front) (second : Clean back) :
    Clean (front ++ back) where
  blankless := List.not_mem_append first.blankless second.blankless
  quoteless := List.not_mem_append first.quoteless second.quoteless
  breakless := List.not_mem_append first.breakless second.breakless

theorem clean_singleText (x : Float32) : Clean (singleText x).toList := by
  have apart {c : Char} (digit : c.isDigit = false) (mark : c ∉ Binary.textMarks) :
      c ∉ (singleText x).toList := by
    intro present
    rcases Binary.singleText_chars x c present with isDigit | listed
    · exact absurd (digit.symm.trans isDigit) Bool.false_ne_true
    · exact mark listed
  exact ⟨apart rfl (by decide), apart rfl (by decide), apart rfl (by decide)⟩

def spaced (words : List (List Char)) : List Char := words.flatMap fun word => ' ' :: word

theorem spaced_append (front back : List (List Char)) :
    spaced (front ++ back) = spaced front ++ spaced back := List.flatMap_append

theorem spaced_notMem {words : List (List Char)} (clean : ∀ word ∈ words, Clean word) :
    '"' ∉ spaced words ∧ '\n' ∉ spaced words := by
  constructor
  · intro present
    obtain ⟨word, listed, inside⟩ := List.mem_flatMap.mp present
    rcases List.mem_cons.mp inside with blank | inside
    · exact absurd blank (by decide)
    · exact (clean word listed).quoteless inside
  · intro present
    obtain ⟨word, listed, inside⟩ := List.mem_flatMap.mp present
    rcases List.mem_cons.mp inside with blank | inside
    · exact absurd blank (by decide)
    · exact (clean word listed).breakless inside

theorem spaced_injective {words others : List (List Char)} (clean : ∀ word ∈ words, Clean word)
    (cleanOthers : ∀ word ∈ others, Clean word) (same : spaced words = spaced others) :
    words = others := by
  induction words generalizing others with
  | nil =>
      cases others with
      | nil => rfl
      | cons word rest => cases same
  | cons word rest ih =>
      cases others with
      | nil => cases same
      | cons other more =>
          have blankless := (clean word List.mem_cons_self).blankless
          have blanklessOther := (cleanOthers other List.mem_cons_self).blankless
          have later : spaced rest = spaced more → rest = more :=
            ih (fun word listed => clean word (.tail _ listed))
              (fun word listed => cleanOthers word (.tail _ listed))
          have tails : word ++ spaced rest = other ++ spaced more := (List.cons.inj same).2
          cases rest with
          | nil =>
              cases more with
              | nil => simpa [spaced] using tails
              | cons next more =>
                  rw [show spaced [] = [] from rfl, List.append_nil] at tails
                  rw [tails] at blankless
                  exact absurd (List.mem_append_right other List.mem_cons_self) blankless
          | cons next rest =>
              cases more with
              | nil =>
                  rw [show spaced [] = [] from rfl, List.append_nil] at tails
                  rw [← tails] at blanklessOther
                  exact absurd (List.mem_append_right word List.mem_cons_self) blanklessOther
              | cons otherNext more =>
                  obtain ⟨equal, ends⟩ := Text.split_first blankless blanklessOther tails
                  rw [equal, later (congrArg (' ' :: ·) ends)]

theorem Axis.word_injective {layout other : Axis}
    (same : layout.word.toList = other.word.toList) : layout = other := by
  revert same
  cases layout <;> cases other <;> decide

theorem Sizing.word_injective {size other : Sizing}
    (same : size.word.toList = other.word.toList) : size = other := by
  revert same
  cases size <;> cases other <;> decide

theorem Distribution.word_injective {placed other : Distribution}
    (same : placed.word.toList = other.word.toList) : placed = other := by
  revert same
  cases placed <;> cases other <;> decide

theorem Alignment.word_injective {align other : Alignment}
    (same : align.word.toList = other.word.toList) : align = other := by
  revert same
  cases align <;> cases other <;> decide

theorem TextAlign.word_injective {align other : TextAlign}
    (same : align.word.toList = other.word.toList) : align = other := by
  revert same
  cases align <;> cases other <;> decide

namespace Line

/-- What a line shows besides the name of a node, how it sits in its parent and where it is. -/
inductive Content where
  | text (characters : String) (align : TextAlign)
  | rectangle
  | ellipse
  | vector
  | container (layout : Axis) (primarySizing counterSizing : Sizing)
      (primaryAlign : Distribution) (counterAlign : Alignment) (spacing : Float32)

namespace Content

def tag : Content → String
  | .text .. => "TEXT"
  | .rectangle => "RECTANGLE"
  | .ellipse => "ELLIPSE"
  | .vector => "VECTOR"
  | .container .. => "CONTAINER"

def said? : Content → Option String
  | .text characters _ => some characters
  | _ => none

def words : Content → List (List Char)
  | .text _ align => [align.word.toList]
  | .container layout primarySizing counterSizing primaryAlign counterAlign spacing =>
      [layout.word.toList, primarySizing.word.toList ++ '/' :: counterSizing.word.toList,
        primaryAlign.word.toList ++ '/' :: counterAlign.word.toList,
        "spacing=".toList ++ (singleText spacing).toList]
  | _ => []

end Content

def alignWords (layoutAlign : LayoutAlign) : List (List Char) :=
  if layoutAlign = .stretch then ["stretch".toList] else []

def positionWords : Option Point → List (List Char)
  | some point =>
      ["at".toList, '(' :: (singleText point.x).toList ++ [','],
        (singleText point.y).toList ++ [')']]
  | none => []

end Line

structure Line where
  name : String
  layoutAlign : LayoutAlign
  content : Line.Content
  position : Option Point

namespace Line

def endWords (line : Line) : List (List Char) := line.content.words ++ positionWords line.position

def saying (said : Option String) : List Char :=
  said.elim [] fun characters => ' ' :: '"' :: Text.escaped characters ++ ['"']

def chars (line : Line) : List Char :=
  line.content.tag.toList ++ ' ' :: '"' :: (line.name.toList ++ '"' ::
    (spaced (alignWords line.layoutAlign) ++ saying line.content.said? ++ spaced line.endWords))

theorem clean_content (content : Content) : ∀ word ∈ content.words, Clean word := by
  intro word listed
  cases content with
  | text characters align =>
      rw [List.mem_singleton.mp listed]
      cases align <;> decide
  | container layout primarySizing counterSizing primaryAlign counterAlign spacing =>
      simp only [Content.words, List.mem_cons, List.not_mem_nil, or_false] at listed
      rcases listed with rfl | rfl | rfl | rfl
      · cases layout <;> decide
      · cases primarySizing <;> cases counterSizing <;> decide
      · cases primaryAlign <;> cases counterAlign <;> decide
      · have label : Clean "spacing=".toList := by decide
        exact label.append (clean_singleText spacing)
  | _ => exact absurd listed List.not_mem_nil

theorem clean_align (layoutAlign : LayoutAlign) :
    ∀ word ∈ alignWords layoutAlign, Clean word := by
  cases layoutAlign <;> decide

theorem clean_position (position : Option Point) :
    ∀ word ∈ positionWords position, Clean word := by
  intro word listed
  cases position with
  | none => exact absurd listed List.not_mem_nil
  | some point =>
      simp only [positionWords, List.mem_cons, List.not_mem_nil, or_false] at listed
      rcases listed with rfl | rfl | rfl
      · decide
      · have bracket : Clean ['('] := by decide
        have comma : Clean [','] := by decide
        exact (bracket.append (clean_singleText point.x)).append comma
      · have bracket : Clean [')'] := by decide
        exact (clean_singleText point.y).append bracket

theorem clean_end (line : Line) : ∀ word ∈ line.endWords, Clean word := by
  intro word listed
  rcases List.mem_append.mp listed with early | late
  · exact clean_content _ word early
  · exact clean_position _ word late

theorem align_of_words {layoutAlign other : LayoutAlign}
    (same : alignWords layoutAlign = alignWords other) : layoutAlign = other := by
  cases layoutAlign <;> cases other <;> first | rfl | cases same

theorem position_of_words {position other : Option Point}
    (same : positionWords position = positionWords other) : position = other := by
  cases position with
  | none =>
      cases other with
      | none => rfl
      | some point => cases same
  | some point =>
      cases other with
      | none => cases same
      | some place =>
          obtain ⟨_, numbers⟩ := List.cons.inj same
          obtain ⟨first, numbers⟩ := List.cons.inj numbers
          have xs := List.append_cancel_right (List.cons.inj first).2
          have ys := List.append_cancel_right (List.cons.inj numbers).1
          have x := Binary.singleText_injective (String.toList_injective xs)
          have y := Binary.singleText_injective (String.toList_injective ys)
          obtain ⟨left, top⟩ := point
          obtain ⟨left', top'⟩ := place
          cases x
          cases y
          rfl

theorem content_of_words {content other : Content} (tags : content.tag = other.tag)
    (said : content.said? = other.said?) (words : content.words = other.words) :
    content = other := by
  cases content with
  | text characters align =>
      cases other with
      | text others otherAlign =>
          have aligns := TextAlign.word_injective (List.cons.inj words).1
          cases said
          rw [aligns]
      | _ => simp [Content.tag] at tags
  | container layout primarySizing counterSizing primaryAlign counterAlign spacing =>
      cases other with
      | container layout' primarySizing' counterSizing' primaryAlign' counterAlign' spacing' =>
          have sizing (size : Sizing) : '/' ∉ size.word.toList := by cases size <;> decide
          have distribution (placed : Distribution) : '/' ∉ placed.word.toList := by
            cases placed <;> decide
          obtain ⟨layouts, words⟩ := List.cons.inj words
          obtain ⟨sizings, words⟩ := List.cons.inj words
          obtain ⟨aligns, words⟩ := List.cons.inj words
          have spacings := List.append_cancel_left (List.cons.inj words).1
          obtain ⟨primarySizings, counterSizings⟩ :=
            Text.split_first (sizing _) (sizing _) sizings
          obtain ⟨primaryAligns, counterAligns⟩ :=
            Text.split_first (distribution _) (distribution _) aligns
          cases Axis.word_injective layouts
          cases Sizing.word_injective primarySizings
          cases Sizing.word_injective counterSizings
          cases Distribution.word_injective primaryAligns
          cases Alignment.word_injective counterAligns
          cases Binary.singleText_injective (String.toList_injective spacings)
          rfl
      | _ => simp [Content.tag] at tags
  | _ => cases other <;> first | rfl | simp [Content.tag] at tags

section

variable {name other : List Char} {words others : List (List Char)}

theorem split_name (clean : ∀ word ∈ words, Clean word) (cleanOthers : ∀ word ∈ others, Clean word)
    (same : name ++ '"' :: spaced words = other ++ '"' :: spaced others) :
    name = other ∧ words = others := by
  obtain ⟨names, rest⟩ :=
    Text.split_last (spaced_notMem clean).1 (spaced_notMem cleanOthers).1 same
  exact ⟨names, spaced_injective clean cleanOthers rest⟩

theorem split_said {late later : List (List Char)} {s t : String}
    (clean : ∀ word ∈ words, Clean word) (cleanOthers : ∀ word ∈ others, Clean word)
    (cleanLate : ∀ word ∈ late, Clean word) (cleanLater : ∀ word ∈ later, Clean word)
    (same : name ++ '"' :: (spaced words ++ saying (some s) ++ spaced late) =
      other ++ '"' :: (spaced others ++ saying (some t) ++ spaced later)) :
    name = other ∧ words = others ∧ s = t ∧ late = later := by
  have closing :
      name ++ '"' :: spaced words ++ ' ' :: '"' :: Text.escaped s ++ '"' :: spaced late =
        other ++ '"' :: spaced others ++ ' ' :: '"' :: Text.escaped t ++ '"' :: spaced later := by
    simpa [saying] using same
  obtain ⟨fronts, ends⟩ :=
    Text.split_last (spaced_notMem cleanLate).1 (spaced_notMem cleanLater).1 closing
  obtain ⟨starts, texts⟩ := Text.opening_unique fronts
  obtain ⟨names, equal⟩ := split_name clean cleanOthers starts
  exact ⟨names, equal, texts, spaced_injective cleanLate cleanLater ends⟩

end

theorem tag_clean (content : Content) : Clean content.tag.toList := by
  cases content <;> simp only [Content.tag] <;> decide

theorem said_of_tags {content other : Content} (tags : content.tag = other.tag) :
    content.said?.isSome = other.said?.isSome := by
  cases content <;> cases other <;> first | rfl | simp [Content.tag] at tags

theorem length_of_tags {content other : Content} (tags : content.tag = other.tag) :
    content.words.length = other.words.length := by
  cases content <;> cases other <;> first | rfl | simp [Content.tag] at tags

/-- Without the word between a name and the others there is one word less, without a position three
words less. -/
theorem split_words {line other : Line} (tags : line.content.tag = other.content.tag)
    (same : alignWords line.layoutAlign ++ line.endWords =
      alignWords other.layoutAlign ++ other.endWords) :
    alignWords line.layoutAlign = alignWords other.layoutAlign ∧
      line.endWords = other.endWords := by
  have lengths := congrArg List.length same
  have middle := length_of_tags tags
  have one (layoutAlign : LayoutAlign) : (alignWords layoutAlign).length ≤ 1 := by
    cases layoutAlign <;> decide
  have three (position : Option Point) :
      (positionWords position).length = 0 ∨ (positionWords position).length = 3 := by
    cases position with
    | none => exact Or.inl rfl
    | some point => exact Or.inr rfl
  simp only [endWords, List.length_append] at lengths
  have first := one line.layoutAlign
  have second := one other.layoutAlign
  have third := three line.position
  have fourth := three other.position
  exact List.append_inj same (by omega)

theorem split_rest {line other : Line} (tags : line.content.tag = other.content.tag)
    (same : line.name.toList ++ '"' :: (spaced (alignWords line.layoutAlign) ++
        saying line.content.said? ++ spaced line.endWords) =
      other.name.toList ++ '"' :: (spaced (alignWords other.layoutAlign) ++
        saying other.content.said? ++ spaced other.endWords)) :
    line.name.toList = other.name.toList ∧
      alignWords line.layoutAlign = alignWords other.layoutAlign ∧
      line.content.said? = other.content.said? ∧ line.endWords = other.endWords := by
  have alike := said_of_tags tags
  cases said : line.content.said? with
  | some s =>
      cases saidOther : other.content.said? with
      | some t =>
          rw [said, saidOther] at same
          obtain ⟨names, aligns, texts, words⟩ := split_said (clean_align line.layoutAlign)
            (clean_align other.layoutAlign) line.clean_end other.clean_end same
          exact ⟨names, aligns, congrArg some texts, words⟩
      | none => simp [said, saidOther] at alike
  | none =>
      cases saidOther : other.content.said? with
      | some t => simp [said, saidOther] at alike
      | none =>
          -- Nothing is quoted behind the name, so the last quote ends the name.
          have clean (line : Line) :
              ∀ word ∈ alignWords line.layoutAlign ++ line.endWords, Clean word := by
            intro word listed
            rcases List.mem_append.mp listed with early | late
            · exact clean_align _ word early
            · exact line.clean_end word late
          have plain :
              line.name.toList ++ '"' :: spaced (alignWords line.layoutAlign ++ line.endWords) =
                other.name.toList ++
                  '"' :: spaced (alignWords other.layoutAlign ++ other.endWords) := by
            simpa [said, saidOther, saying, spaced_append] using same
          obtain ⟨names, words⟩ := split_name (clean line) (clean other) plain
          obtain ⟨aligns, ends⟩ := split_words tags words
          exact ⟨names, aligns, rfl, ends⟩

/-- A line says all that it shows, whatever the name in it. -/
theorem chars_injective {line other : Line} (same : line.chars = other.chars) : line = other := by
  obtain ⟨tags, rest⟩ := Text.split_first (tag_clean line.content).blankless
    (tag_clean other.content).blankless same
  have tags := String.toList_injective tags
  obtain ⟨names, aligns, said, ends⟩ := split_rest tags (List.cons.inj rest).2
  obtain ⟨words, places⟩ := List.append_inj ends (length_of_tags tags)
  have name := String.toList_injective names
  have layoutAlign := align_of_words aligns
  have content := content_of_words tags said words
  have position := position_of_words places
  cases line
  cases other
  cases name
  cases layoutAlign
  cases content
  cases position
  rfl

theorem chars_unbroken {line : Line} (named : '\n' ∉ line.name.toList) : '\n' ∉ line.chars := by
  have tag := (tag_clean line.content).breakless
  have early := (spaced_notMem (clean_align line.layoutAlign)).2
  have late := (spaced_notMem line.clean_end).2
  have said : '\n' ∉ saying line.content.said? := by
    cases line.content.said? with
    | none => exact List.not_mem_nil
    | some characters => simp [saying, Text.escaped_unbroken characters]
  simp [chars, tag, named, early, said, late]

theorem chars_head (line : Line) : ∃ first rest, line.chars = first :: rest ∧ first ≠ ' ' := by
  have blankless := (tag_clean line.content).blankless
  have some : line.content.tag.toList ≠ [] := by cases line.content <;> simp [Content.tag]
  obtain ⟨first, rest, tag⟩ := List.exists_cons_of_ne_nil some
  rw [tag] at blankless
  refine ⟨first, _, by rw [chars, tag, List.cons_append], ?_⟩
  rintro rfl
  exact blankless List.mem_cons_self

end Line

end Wireframe
