import Wireframe.Json.Value
/-!
The entries of a component tree. An entry counts when it has a text under `component` and an object
under `props`; everything else in it is ignored.
-/

namespace Wireframe

structure Entry where
  tag : String
  props : List (String × Json)

namespace Entry

def ofJson? (value : Json) : Option Entry := do
  let tag ← (← value.member? "component").string?
  let props ← (← value.member? "props").object?
  pure ⟨tag, props⟩

theorem ofJson?_eq_some_iff {value : Json} {entry : Entry} :
    ofJson? value = some entry ↔
      ∃ members, value = .object members ∧
        members.lookup "component" = some (.string entry.tag) ∧
        members.lookup "props" = some (.object entry.props) := by
  constructor
  · intro valid
    simp only [ofJson?, Option.bind_eq_bind, Option.bind_eq_some_iff] at valid
    obtain ⟨word, hasWord, tag, isText, found, hasProps, props, isObject, same⟩ := valid
    cases Option.some.inj same
    cases value with
    | object members =>
        cases word with
        | string text =>
            cases Option.some.inj isText
            cases found with
            | object inner =>
                cases Option.some.inj isObject
                exact ⟨members, rfl, hasWord, hasProps⟩
            | _ => cases isObject
        | _ => cases isText
    | _ => cases hasWord
  · rintro ⟨members, rfl, hasWord, hasProps⟩
    simp [ofJson?, Json.member?, hasWord, hasProps, Json.string?, Json.object?]

def children (entry : Entry) : List Json :=
  ((entry.props.lookup "children").bind Json.array?).getD []

end Entry

end Wireframe
