import Mathlib.Data.List.Basic
/-!
Markup as tags. A scanner reads a text character by character and knows nothing but tags: names,
attributes in double quotes and the marks around them. Its tags nest if every element that is opened
is closed by its own name. A document is one element with nothing around it.
-/

namespace Wireframe.Markup

structure Head where
  name : String
  attributes : List (String × String)
  deriving DecidableEq

inductive Tag where
  | opening (head : Head)
  | alone (head : Head)
  | closing (name : String)
  deriving DecidableEq

def isWord (c : Char) : Bool := c.isAlphanum || c = '-'

/-- The characters of values: no double quote, no bracket and no ampersand. -/
def isPlain (c : Char) : Bool := c ≠ '"' && c ≠ '<' && c ≠ '>' && c ≠ '&'

def Plain (text : String) : Prop := ∀ c ∈ text.toList, isPlain c = true

def Head.attribute? (name : String) (head : Head) : Option String := head.attributes.lookup name

def Head.names (head : Head) : List String := head.attributes.map Prod.fst

def Head.add (head : Head) (name value : String) : Head :=
  { head with attributes := head.attributes ++ [(name, value)] }

def attributeChars (entry : String × String) : List Char :=
  ' ' :: (entry.1.toList ++ '=' :: '"' :: (entry.2.toList ++ ['"']))

def Head.chars (head : Head) : List Char :=
  head.name.toList ++ head.attributes.flatMap attributeChars

def Tag.chars : Tag → List Char
  | .opening head => '<' :: (head.chars ++ ['>'])
  | .alone head => '<' :: (head.chars ++ ['/', '>'])
  | .closing name => '<' :: '/' :: (name.toList ++ ['>'])

/-- Where the scanner is in a text, with what it has read of a word or a value, the last character
first: between tags; behind a bracket; in the name of an element; in that of an attribute; behind
one; in a value; behind one; behind the slash of a tag that stands alone; in a closing tag. -/
inductive Place where
  | outside
  | bracket
  | name (read : List Char)
  | label (head : Head) (read : List Char)
  | equals (head : Head) (key : String)
  | value (head : Head) (key : String) (read : List Char)
  | ended (head : Head)
  | slash (head : Head)
  | closing (read : List Char)
  deriving DecidableEq

def word (read : List Char) : String := String.ofList read.reverse

def Head.next (head : Head) (c : Char) : Option (Place × Option Tag) :=
  if c = ' ' then some (.label head [], none)
  else if c = '/' then some (.slash head, none)
  else if c = '>' then some (.outside, some (.opening head))
  else none

def Place.step : Place → Char → Option (Place × Option Tag)
  | .outside, c => if c = '<' then some (.bracket, none) else none
  | .bracket, c =>
      if c = '/' then some (.closing [], none)
      else if isWord c then some (.name [c], none) else none
  | .name read, c =>
      if isWord c then some (.name (c :: read), none) else Head.next ⟨word read, []⟩ c
  | .label head read, c =>
      if isWord c then some (.label head (c :: read), none)
      else if c = '=' ∧ read ≠ [] then some (.equals head (word read), none) else none
  | .equals head key, c => if c = '"' then some (.value head key [], none) else none
  | .value head key read, c =>
      if c = '"' then some (.ended (head.add key (word read)), none)
      else if isPlain c then some (.value head key (c :: read), none) else none
  | .ended head, c => head.next c
  | .slash head, c => if c = '>' then some (.outside, some (.alone head)) else none
  | .closing read, c =>
      if isWord c then some (.closing (c :: read), none)
      else if c = '>' ∧ read ≠ [] then some (.outside, some (.closing (word read))) else none

/-- The tags of a text, from a place on; nothing if anything else is in it. -/
def scan : Place → List Char → Option (List Tag)
  | place, [] => if place = .outside then some [] else none
  | place, c :: cs => do
      let (place, tag) ← place.step c
      let tags ← scan place cs
      pure (tag.toList ++ tags)

inductive Element where
  | alone (head : Head)
  | around (head : Head) (children : List Element)

/-- The elements that tags make, beside those that are `done`, the last first, inside the elements
`outer` that are open, each with what lies before it. -/
def nest : List Element → List (Head × List Element) → List Tag → Option (List Element)
  | done, [], [] => some done.reverse
  | _, _ :: _, [] => none
  | done, outer, .opening head :: tags => nest [] ((head, done) :: outer) tags
  | done, outer, .alone head :: tags => nest (.alone head :: done) outer tags
  | done, (head, before) :: outer, .closing name :: tags =>
      if head.name = name then nest (.around head done.reverse :: before) outer tags else none
  | _, [], .closing _ :: _ => none

def read? (text : String) : Option Element := do
  match ← nest [] [] (← scan .outside text.toList) with
  | [root] => some root
  | _ => none

namespace Element

def head : Element → Head
  | .alone head | .around head _ => head

mutual

def tags : Element → List Tag
  | .alone head => [.alone head]
  | .around head children => .opening head :: (tagsOf children ++ [.closing head.name])

def tagsOf : List Element → List Tag
  | [] => []
  | element :: rest => element.tags ++ tagsOf rest

end

mutual

def all : Element → List Element
  | .alone head => [.alone head]
  | .around head children => .around head children :: allOf children

def allOf : List Element → List Element
  | [] => []
  | element :: rest => element.all ++ allOf rest

end

def chars (element : Element) : List Char := element.tags.flatMap Tag.chars

theorem tagsOf_append (first second : List Element) :
    tagsOf (first ++ second) = tagsOf first ++ tagsOf second := by
  induction first with
  | nil => rfl
  | cons element rest ih => rw [List.cons_append, tagsOf, tagsOf, ih, List.append_assoc]

end Element

def Place.read : Place → List Char
  | .outside => []
  | .bracket => ['<']
  | .name read => '<' :: read.reverse
  | .label head read => '<' :: (head.chars ++ ' ' :: read.reverse)
  | .equals head key => '<' :: (head.chars ++ ' ' :: (key.toList ++ ['=']))
  | .value head key read =>
      '<' :: (head.chars ++ ' ' :: (key.toList ++ '=' :: '"' :: read.reverse))
  | .ended head => '<' :: head.chars
  | .slash head => '<' :: (head.chars ++ ['/'])
  | .closing read => '<' :: '/' :: read.reverse

theorem chars_add (head : Head) (name value : String) :
    (head.add name value).chars = head.chars ++ attributeChars (name, value) := by
  simp [Head.add, Head.chars]

theorem Head.next_read {head : Head} {c : Char} {place : Place} {tag : Option Tag}
    (steps : head.next c = some (place, tag)) :
    (Place.ended head).read ++ [c] = tag.toList.flatMap Tag.chars ++ place.read := by
  unfold Head.next at steps
  split_ifs at steps with blank slash bracket <;> cases steps
  · simp [Place.read, blank]
  · simp [Place.read, slash]
  · simp [Place.read, Tag.chars, bracket]

theorem Place.step_read {place next : Place} {c : Char} {tag : Option Tag}
    (steps : place.step c = some (next, tag)) :
    place.read ++ [c] = tag.toList.flatMap Tag.chars ++ next.read := by
  cases place with
  | outside =>
      simp only [step, Option.ite_none_right_eq_some] at steps
      obtain ⟨rfl, steps⟩ := steps
      cases steps
      rfl
  | bracket =>
      simp only [step] at steps
      split_ifs at steps with slash letter <;> cases steps
      · simp [read, slash]
      · simp [read]
  | name chars =>
      simp only [step] at steps
      split_ifs at steps with letter
      · cases steps
        simp [read]
      · simpa [read, Head.chars, word] using Head.next_read steps
  | label head chars =>
      simp only [step] at steps
      split_ifs at steps with letter equals <;> cases steps
      · simp [read]
      · simp [read, word, equals.1]
  | equals head key =>
      simp only [step, Option.ite_none_right_eq_some] at steps
      obtain ⟨rfl, steps⟩ := steps
      cases steps
      simp [read]
  | value head key chars =>
      simp only [step] at steps
      split_ifs at steps with quote plain <;> cases steps
      · simp [read, chars_add, attributeChars, word, quote]
      · simp [read]
  | ended head => exact Head.next_read steps
  | slash head =>
      simp only [step, Option.ite_none_right_eq_some] at steps
      obtain ⟨rfl, steps⟩ := steps
      cases steps
      simp [read, Tag.chars]
  | closing chars =>
      simp only [step] at steps
      split_ifs at steps with letter bracket <;> cases steps
      · simp [read]
      · simp [read, Tag.chars, word, bracket.1]

/-- Nothing is in a text besides the tags that are scanned. -/
theorem chars_of_scan {place : Place} {cs : List Char} {tags : List Tag}
    (scanned : scan place cs = some tags) : place.read ++ cs = tags.flatMap Tag.chars := by
  induction cs generalizing place tags with
  | nil =>
      simp only [scan, Option.ite_none_right_eq_some] at scanned
      obtain ⟨rfl, same⟩ := scanned
      cases same
      rfl
  | cons c cs ih =>
      simp only [scan, Option.bind_eq_bind, Option.bind_eq_some_iff] at scanned
      obtain ⟨⟨next, tag⟩, steps, later, scanned, same⟩ := scanned
      cases same
      have first := Place.step_read steps
      have rest := ih scanned
      calc place.read ++ c :: cs = (place.read ++ [c]) ++ cs := by simp
        _ = tag.toList.flatMap Tag.chars ++ (next.read ++ cs) := by rw [first, List.append_assoc]
        _ = (tag.toList ++ later).flatMap Tag.chars := by rw [rest, List.flatMap_append]

def openTags : List (Head × List Element) → List Tag
  | [] => []
  | (head, before) :: outer =>
      openTags outer ++ (Element.tagsOf before.reverse ++ [.opening head])

theorem tags_of_nest {done : List Element} {outer : List (Head × List Element)} {tags : List Tag}
    {roots : List Element} (nested : nest done outer tags = some roots) :
    openTags outer ++ (Element.tagsOf done.reverse ++ tags) = Element.tagsOf roots := by
  fun_induction nest done outer tags with
  | case1 done =>
      cases nested
      simp [openTags]
  | case2 => cases nested
  | case3 done outer head tags ih => simpa [openTags, Element.tagsOf] using ih nested
  | case4 done outer head tags ih =>
      simpa [Element.tagsOf_append, Element.tagsOf, Element.tags] using ih nested
  | case5 done head before outer tags ih =>
      simpa [openTags, Element.tagsOf_append, Element.tagsOf, Element.tags] using ih nested
  | case6 => cases nested
  | case7 => cases nested

/-- A text that is read consists of the tags of the element that it is. -/
theorem chars_of_read? {text : String} {root : Element} (reads : read? text = some root) :
    text.toList = root.chars := by
  simp only [read?, Option.bind_eq_bind, Option.bind_eq_some_iff] at reads
  obtain ⟨tags, scanned, roots, nested, single⟩ := reads
  split at single
  · cases single
    have chars := chars_of_scan scanned
    have same := tags_of_nest nested
    simp only [openTags, Element.tagsOf, List.reverse_nil, List.nil_append, List.append_nil] at same
    rw [Element.chars, ← same]
    exact chars
  · cases single

def IsName (name : String) : Prop := name ≠ "" ∧ ∀ c ∈ name.toList, isWord c = true

structure Head.Proper (head : Head) : Prop where
  name : IsName head.name
  keys : ∀ entry ∈ head.attributes, IsName entry.1
  values : ∀ entry ∈ head.attributes, Plain entry.2

theorem scan_moves {place next : Place} {c : Char} (steps : place.step c = some (next, none))
    (cs : List Char) : scan place (c :: cs) = scan next cs := by
  rw [scan, steps]
  change (scan next cs).bind (fun tags => some tags) = scan next cs
  cases scan next cs <;> rfl

theorem scan_ends {place next : Place} {c : Char} {tag : Tag}
    (steps : place.step c = some (next, some tag)) (cs : List Char) :
    scan place (c :: cs) = (scan next cs).map (tag :: ·) := by
  rw [scan, steps]
  change (scan next cs).bind (fun tags => some (tag :: tags)) = (scan next cs).map (tag :: ·)
  cases scan next cs <;> rfl

/-- A place that takes in characters one by one. -/
theorem scan_absorb (place : List Char → Place) {takes : Char → Bool}
    (absorbs : ∀ read c, takes c = true → (place read).step c = some (place (c :: read), none))
    {cs : List Char} (all : ∀ c ∈ cs, takes c = true) (read rest : List Char) :
    scan (place read) (cs ++ rest) = scan (place (cs.reverse ++ read)) rest := by
  induction cs generalizing read with
  | nil => rfl
  | cons c cs ih =>
      have steps := absorbs read c (all c List.mem_cons_self)
      rw [List.cons_append, scan_moves steps,
        ih fun other listed => all other (List.mem_cons_of_mem c listed)]
      simp

theorem scan_name {cs : List Char} (all : ∀ c ∈ cs, isWord c = true) (read rest : List Char) :
    scan (.name read) (cs ++ rest) = scan (.name (cs.reverse ++ read)) rest :=
  scan_absorb .name (fun _ _ letter => if_pos letter) all read rest

theorem scan_label (head : Head) {cs : List Char} (all : ∀ c ∈ cs, isWord c = true)
    (read rest : List Char) :
    scan (.label head read) (cs ++ rest) = scan (.label head (cs.reverse ++ read)) rest :=
  scan_absorb (.label head) (fun _ _ letter => if_pos letter) all read rest

theorem scan_closing {cs : List Char} (all : ∀ c ∈ cs, isWord c = true) (read rest : List Char) :
    scan (.closing read) (cs ++ rest) = scan (.closing (cs.reverse ++ read)) rest :=
  scan_absorb .closing (fun _ _ letter => if_pos letter) all read rest

theorem scan_value (head : Head) (key : String) {cs : List Char}
    (all : ∀ c ∈ cs, isPlain c = true) (read rest : List Char) :
    scan (.value head key read) (cs ++ rest) =
      scan (.value head key (cs.reverse ++ read)) rest := by
  refine scan_absorb (.value head key) (fun read c plain => ?_) all read rest
  have inside : c ≠ '"' := by
    rintro rfl
    cases plain
  rw [Place.step, if_neg inside, if_pos plain]

theorem word_reverse (text : String) : word text.toList.reverse = text := by
  simp [word]

theorem scan_attribute (head : Head) {key value : String} (named : IsName key)
    (plain : Plain value) (rest : List Char) :
    scan (.ended head) (attributeChars (key, value) ++ rest) =
      scan (.ended (head.add key value)) rest := by
  have equals : (Place.label head key.toList.reverse).step '=' = some (.equals head key, none) := by
    have mark : isWord '=' = false := by decide
    simp [Place.step, mark, named.1, word_reverse]
  have closes : (Place.value head key value.toList.reverse).step '"' =
      some (.ended (head.add key value), none) := by
    simp [Place.step, word_reverse]
  calc scan (.ended head) (attributeChars (key, value) ++ rest)
      = scan (.ended head) (' ' :: (key.toList ++ '=' :: '"' :: (value.toList ++ '"' :: rest))) := by
        simp [attributeChars]
    _ = scan (.label head key.toList.reverse) ('=' :: '"' :: (value.toList ++ '"' :: rest)) := by
        rw [scan_moves rfl, scan_label head named.2, List.append_nil]
    _ = scan (.value head key []) (value.toList ++ '"' :: rest) := by
        rw [scan_moves equals, scan_moves rfl]
    _ = scan (.ended (head.add key value)) rest := by
        rw [scan_value head key plain, List.append_nil, scan_moves closes]

theorem scan_attributes (head : Head) {attributes : List (String × String)}
    (named : ∀ entry ∈ attributes, IsName entry.1)
    (plain : ∀ entry ∈ attributes, Plain entry.2) (rest : List Char) :
    scan (.ended head) (attributes.flatMap attributeChars ++ rest) =
      scan (.ended { head with attributes := head.attributes ++ attributes }) rest := by
  induction attributes generalizing head with
  | nil => simp
  | cons entry others ih =>
      rw [List.flatMap_cons, List.append_assoc,
        scan_attribute head (named entry List.mem_cons_self) (plain entry List.mem_cons_self),
        ih (head.add entry.1 entry.2) (fun other listed => named other (List.mem_cons_of_mem _ listed))
          (fun other listed => plain other (List.mem_cons_of_mem _ listed))]
      simp [Head.add]

theorem scan_head {head : Head} (proper : head.Proper) (mark : Char) (ends : isWord mark = false)
    (rest : List Char) :
    scan .outside ('<' :: (head.chars ++ mark :: rest)) = scan (.ended head) (mark :: rest) := by
  have filled : head.name.toList ≠ [] := by simpa using proper.name.1
  obtain ⟨first, letters, spelt⟩ := List.exists_cons_of_ne_nil filled
  have all := proper.name.2
  rw [spelt] at all
  have letter : isWord first = true := all first List.mem_cons_self
  have apart : first ≠ '/' := by
    rintro rfl
    cases letter
  have starts : Place.bracket.step first = some (.name [first], none) := by
    rw [Place.step, if_neg apart, if_pos letter]
  -- Behind the name the scanner is where it is behind an attribute.
  have behind (next : Char) (other : isWord next = false) (cs : List Char) :
      scan (.name (letters.reverse ++ [first])) (next :: cs) =
        scan (.ended ⟨head.name, []⟩) (next :: cs) := by
    have named : word (letters.reverse ++ [first]) = head.name := by
      rw [word, ← String.toList_inj]
      simp [spelt]
    simp [scan, Place.step, other, named]
  have attributes := scan_attributes ⟨head.name, []⟩ proper.keys proper.values (mark :: rest)
  rw [List.nil_append] at attributes
  rw [Head.chars, spelt, List.append_assoc, List.cons_append, scan_moves rfl, scan_moves starts,
    scan_name (fun c listed => all c (List.mem_cons_of_mem _ listed)), ← attributes]
  cases head.attributes with
  | nil => exact behind mark ends rest
  | cons entry others => exact behind ' ' (by decide) _

def Tag.Proper : Tag → Prop
  | .opening head | .alone head => head.Proper
  | .closing name => IsName name

theorem scan_tag {tag : Tag} (proper : tag.Proper) (rest : List Char) :
    scan .outside (tag.chars ++ rest) = (scan .outside rest).map (tag :: ·) := by
  cases tag with
  | opening head =>
      calc scan .outside ((Tag.opening head).chars ++ rest)
          = scan .outside ('<' :: (head.chars ++ '>' :: rest)) := by simp [Tag.chars]
        _ = scan (.ended head) ('>' :: rest) := scan_head proper '>' (by decide) rest
        _ = (scan .outside rest).map (.opening head :: ·) := scan_ends rfl rest
  | alone head =>
      calc scan .outside ((Tag.alone head).chars ++ rest)
          = scan .outside ('<' :: (head.chars ++ '/' :: '>' :: rest)) := by simp [Tag.chars]
        _ = scan (.ended head) ('/' :: '>' :: rest) := scan_head proper '/' (by decide) _
        _ = scan (.slash head) ('>' :: rest) := scan_moves rfl _
        _ = (scan .outside rest).map (.alone head :: ·) := scan_ends rfl rest
  | closing name =>
      have ends : (Place.closing name.toList.reverse).step '>' =
          some (.outside, some (.closing name)) := by
        have mark : isWord '>' = false := by decide
        simp [Place.step, mark, proper.1, word_reverse]
      calc scan .outside ((Tag.closing name).chars ++ rest)
          = scan .outside ('<' :: '/' :: (name.toList ++ '>' :: rest)) := by simp [Tag.chars]
        _ = scan (.closing []) (name.toList ++ '>' :: rest) := by
          rw [scan_moves rfl, scan_moves rfl]
        _ = scan (.closing name.toList.reverse) ('>' :: rest) := by
          rw [scan_closing proper.2, List.append_nil]
        _ = (scan .outside rest).map (.closing name :: ·) := scan_ends ends rest

theorem scan_tags {tags : List Tag} (proper : ∀ tag ∈ tags, tag.Proper) :
    scan .outside (tags.flatMap Tag.chars) = some tags := by
  induction tags with
  | nil => rfl
  | cons tag rest ih =>
      rw [List.flatMap_cons, scan_tag (proper tag List.mem_cons_self),
        ih fun other listed => proper other (List.mem_cons_of_mem _ listed)]
      rfl

mutual

theorem nest_tags (element : Element) (done : List Element) (outer : List (Head × List Element))
    (rest : List Tag) :
    nest done outer (element.tags ++ rest) = nest (element :: done) outer rest := by
  cases element with
  | alone head => rw [Element.tags, List.singleton_append, nest]
  | around head children =>
      rw [Element.tags, List.cons_append, List.append_assoc, nest, nest_tagsOf children]
      simp [nest]

theorem nest_tagsOf (elements : List Element) (done : List Element)
    (outer : List (Head × List Element)) (rest : List Tag) :
    nest done outer (Element.tagsOf elements ++ rest) =
      nest (elements.reverse ++ done) outer rest := by
  cases elements with
  | nil => rfl
  | cons element others =>
      rw [Element.tagsOf, List.append_assoc, nest_tags element, nest_tagsOf others]
      simp

end

mutual

theorem Element.tags_proper {element : Element}
    (proper : ∀ inner ∈ element.all, inner.head.Proper) : ∀ tag ∈ element.tags, tag.Proper := by
  cases element with
  | alone head => exact List.forall_mem_singleton.mpr (proper _ (List.mem_singleton.mpr rfl))
  | around head children =>
      have outer : head.Proper := proper _ List.mem_cons_self
      have inside := tagsOf_proper fun inner within => proper inner (List.mem_cons_of_mem _ within)
      rw [Element.tags, List.forall_mem_cons, List.forall_mem_append]
      exact ⟨outer, inside, List.forall_mem_singleton.mpr outer.name⟩

theorem Element.tagsOf_proper {elements : List Element}
    (proper : ∀ inner ∈ allOf elements, inner.head.Proper) :
    ∀ tag ∈ tagsOf elements, tag.Proper := by
  cases elements with
  | nil => exact List.forall_mem_nil _
  | cons element rest =>
      rw [Element.allOf, List.forall_mem_append] at proper
      rw [Element.tagsOf, List.forall_mem_append]
      exact ⟨Element.tags_proper proper.1, Element.tagsOf_proper proper.2⟩

end

theorem read?_of_chars {text : String} {root : Element}
    (proper : ∀ inner ∈ root.all, inner.head.Proper) (chars : text.toList = root.chars) :
    read? text = some root := by
  have nested := nest_tags root [] [] []
  rw [List.append_nil] at nested
  simp [read?, chars, Element.chars, scan_tags (Element.tags_proper proper), nested, nest]

end Wireframe.Markup
