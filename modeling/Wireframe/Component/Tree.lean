import Wireframe.Component.Entry

namespace Wireframe

/-- An entry with the entries below it, or something in an entry's place that does not count. -/
inductive Tree where
  | invalid
  | entry (entry : Entry) (children : List Tree)

namespace Tree

mutual

def ofJson : Json → Tree
  | .object members =>
      match Entry.ofJson? (.object members) with
      | none => .invalid
      | some read => .entry read (belowMembers members)
  | _ => .invalid

def belowMembers : List (String × Json) → List Tree
  | [] => []
  | (name, value) :: rest => if name = "props" then belowProps value else belowMembers rest

def belowProps : Json → List Tree
  | .object props => childrenOf props
  | _ => []

def childrenOf : List (String × Json) → List Tree
  | [] => []
  | (name, value) :: rest => if name = "children" then items value else childrenOf rest

def items : Json → List Tree
  | .array values => ofList values
  | _ => []

def ofList : List Json → List Tree
  | [] => []
  | value :: rest => ofJson value :: ofList rest

end

theorem childrenOf_eq (props : List (String × Json)) :
    childrenOf props = ofList (((props.lookup "children").bind Json.array?).getD []) := by
  induction props with
  | nil => rfl
  | cons member rest ih =>
      obtain ⟨name, value⟩ := member
      rw [childrenOf, List.lookup_cons]
      by_cases named : name = "children"
      · subst named
        cases value <;> rfl
      · have other : ("children" == name) = false := beq_false_of_ne (Ne.symm named)
        rw [if_neg named, other, ih]

theorem belowMembers_eq (members : List (String × Json)) :
    belowMembers members = ((members.lookup "props").map belowProps).getD [] := by
  induction members with
  | nil => rfl
  | cons member rest ih =>
      obtain ⟨name, value⟩ := member
      rw [belowMembers, List.lookup_cons]
      by_cases named : name = "props"
      · subst named
        rfl
      · have other : ("props" == name) = false := beq_false_of_ne (Ne.symm named)
        rw [if_neg named, other, ih]

theorem ofJson_invalid {value : Json} (invalid : Entry.ofJson? value = none) :
    ofJson value = .invalid := by
  cases value with
  | object members => rw [ofJson, invalid]
  | _ => rfl

theorem ofJson_entry {value : Json} {entry : Entry} (valid : Entry.ofJson? value = some entry) :
    ofJson value = .entry entry (ofList entry.children) := by
  obtain ⟨members, rfl, _, hasProps⟩ := Entry.ofJson?_eq_some_iff.mp valid
  rw [ofJson, valid, belowMembers_eq, hasProps]
  exact congrArg (Tree.entry entry) (childrenOf_eq entry.props)

end Tree

end Wireframe
