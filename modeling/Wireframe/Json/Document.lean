import Wireframe.Json.Token
/-!
A JSON text as far as it could be read: its values with their places, up to the first fault of the
text. A document is read further by whoever knows what should be in it (`Wireframe.Json.Record`), so
of a fault in the data and one in the text the first in reading order is reported.
-/

namespace Wireframe.Json

/-- A break in a list or object after its last part: the fault for whoever reads the next part,
skips it, or expects the end. -/
structure Break where
  read : Fault
  skip : Fault
  close : Fault

inductive Ending where
  | closed (stop : Option Place)
  | broken (breach : Break)

structure Opening where
  start : Option Place
  limit : Option Fault

structure Label where
  key : Except Fault String
  stop : Option Place
  next : Option Place

/-- Where a value without parts lies: the place of its first byte, its end, and the place where the
text goes on after blanks. -/
structure Span where
  look : Option Place
  stop : Option Place
  next : Option Place

inductive Document where
  | null (span : Span)
  | bool (value : Bool) (span : Span)
  | number (value : Except Fault Number) (span : Span)
  | string (value : Except Fault String) (span : Span)
  | list (opening : Opening) (items : List Document) (ending : Ending)
  | record (opening : Opening) (members : List (Label × Document)) (ending : Ending)
  | broken (look : Option Place) (read skip : Fault)

inductive Frame where
  | list (opening : Opening) (done : List Document)
  | record (opening : Opening) (done : List (Label × Document)) (label : Label)

/-- What may come next: a value; a value or the end of an empty list; a key or the end of an empty
object; a key; a colon; a comma or an end; nothing. -/
inductive Expect where
  | value
  | valueOrEnd (opening : Opening)
  | keyOrEnd (opening : Opening)
  | key (opening : Opening) (done : List (Label × Document))
  | colon (opening : Opening) (done : List (Label × Document)) (label : Label)
  | commaOrEnd (value : Document)
  | nothing (value : Document)

structure Reading where
  document : Document
  trailing : Option Fault

def Frame.fill (value : Document) (ending : Ending) : Frame → Document
  | .list opening done =>
      .list opening (done.reverse ++ [value]) ending
  | .record opening done label =>
      .record opening (done.reverse ++ [(label, value)]) ending

/-- An ending for containers around a fault; it is never reached, since the fault comes first. -/
def unreached (fault : Fault) : Ending := .broken ⟨fault, fault, fault⟩

def unwind (value : Document) (fault : Fault) (frames : List Frame) : Document :=
  frames.foldl (fun inner frame => frame.fill inner (unreached fault)) value

private def faultAt (cause : Cause) (place : Place) : Fault := ⟨cause, some place⟩

def brokenAt (cause : Cause) (place : Place) : Document × Fault :=
  (.broken (some place) (faultAt cause place) (faultAt cause place), faultAt cause place)

def breakAt (read skip close : Cause) (place : Place) : Ending :=
  .broken ⟨faultAt read place, faultAt skip place, faultAt close place⟩

def complete (value : Document) (frames : List Frame) : Expect :=
  if frames.isEmpty then .nothing value else .commaOrEnd value

def scalar? (lexeme : Lexeme) (next : Place) : Option Document :=
  let span : Span := ⟨some lexeme.look, some lexeme.stop, some next⟩
  match lexeme.token with
  | .null => some (.null span)
  | .bool value => some (.bool value span)
  | .number value => some (.number value span)
  | .string value => some (.string value span)
  | _ => none

inductive Progress where
  | more (expect : Expect) (frames : List Frame)
  | done (reading : Reading)

def finish (value : Document) (fault : Fault) (frames : List Frame) : Progress :=
  .done ⟨unwind value fault frames, none⟩

def stopAt (broken : Document × Fault) (frames : List Frame) : Progress :=
  finish broken.1 broken.2 frames

def depthLimit : Nat := 127

def Opening.at (lexeme : Lexeme) (level : Nat) : Opening :=
  ⟨some lexeme.start, if level < depthLimit then none else some (faultAt .tooDeep lexeme.look)⟩

def stepValue (lexeme : Lexeme) (next : Place) (frames : List Frame) : Progress :=
  match scalar? lexeme next with
  | some value => .more (complete value frames) frames
  | none =>
      match lexeme.token with
      | .openList => .more (.valueOrEnd (Opening.at lexeme frames.length)) frames
      | .openObject => .more (.keyOrEnd (Opening.at lexeme frames.length)) frames
      | .broken read skip | .brokenString read skip =>
        finish (.broken (some lexeme.look) read skip) read frames
      | _ => stopAt (brokenAt .expectedValue lexeme.look) frames

def stepKey (opening : Opening) (lexeme : Lexeme) (next : Place) (done : List (Label × Document))
    (frames : List Frame) : Progress :=
  let record (ending : Ending) : Document := .record opening done.reverse ending
  match lexeme.token with
  | .string key => .more (.colon opening done ⟨key, some lexeme.stop, some next⟩) frames
  | .brokenString read skip => finish (record (.broken ⟨read, skip, read⟩)) read frames
  | _ =>
      finish (record (breakAt .keyNotString .keyNotString .trailingComma lexeme.look))
        (faultAt .keyNotString lexeme.look) frames

def step (lexeme : Lexeme) (next : Place) : Expect → List Frame → Progress
  | .value, frames =>
      match frames, lexeme.token with
      | .list opening done :: outer, .closeList =>
          finish (.list opening done.reverse
            (breakAt .trailingComma .expectedValue .trailingComma lexeme.look))
            (faultAt .trailingComma lexeme.look) outer
      | frames, _ => stepValue lexeme next frames
  | .valueOrEnd opening, frames =>
      match lexeme.token with
      | .closeList =>
          let value := Document.list opening []
            (.closed (some lexeme.stop))
          .more (complete value frames) frames
      | _ => stepValue lexeme next (.list opening [] :: frames)
  | .keyOrEnd opening, frames =>
      match lexeme.token with
      | .closeObject =>
          let value := Document.record opening []
            (.closed (some lexeme.stop))
          .more (complete value frames) frames
      | _ => stepKey opening lexeme next [] frames
  | .key opening done, frames =>
      match lexeme.token with
      | .closeObject =>
          finish (.record opening done.reverse
            (breakAt .trailingComma .keyNotString .trailingComma lexeme.look))
            (faultAt .trailingComma lexeme.look) frames
      | _ => stepKey opening lexeme next done frames
  | .colon opening done label, frames =>
      match lexeme.token with
      | .colon => .more .value (.record opening done label :: frames)
      | _ => stopAt (brokenAt .expectedColon lexeme.look) (.record opening done label :: frames)
  | .commaOrEnd value, frames =>
      match frames, lexeme.token with
      | .list opening done :: outer, .comma =>
          .more .value (.list opening (value :: done) :: outer)
      | frame@(.list ..) :: outer, .closeList =>
          let value := frame.fill value (.closed (some lexeme.stop))
          .more (complete value outer) outer
      | frame@(.list ..) :: outer, _ =>
          finish (frame.fill value (breakAt .expectedCommaInList .expectedCommaInList
            .trailingCharacters lexeme.look)) (faultAt .expectedCommaInList lexeme.look) outer
      | .record opening done label :: outer, .comma =>
          .more (.key opening ((label, value) :: done)) outer
      | frame@(.record ..) :: outer, .closeObject =>
          let value := frame.fill value (.closed (some lexeme.stop))
          .more (complete value outer) outer
      | frame@(.record ..) :: outer, _ =>
          finish (frame.fill value (breakAt .expectedCommaInObject .expectedCommaInObject
            .trailingCharacters lexeme.look)) (faultAt .expectedCommaInObject lexeme.look) outer
      | [], _ => .done ⟨value, some (faultAt .trailingCharacters lexeme.look)⟩
  | .nothing value, _ => .done ⟨value, some (faultAt .trailingCharacters lexeme.look)⟩

def atEnd (last : Place) : Expect → List Frame → Reading
  | .value, .list opening done :: outer =>
      let read := faultAt .endInValue last
      if done.isEmpty then ⟨unwind (.broken (some last) read read) read
        (.list opening done :: outer), none⟩
      else ⟨unwind (.list opening done.reverse
        (breakAt .endInValue .endInValue .trailingCharacters last)) read outer, none⟩
  | .value, frames =>
      let read := faultAt .endInValue last
      ⟨unwind (.broken (some last) read read) read frames, none⟩
  | .valueOrEnd opening, frames =>
      ⟨unwind (.list opening []
        (breakAt .endInList .endInList .endInList last)) (faultAt .endInList last) frames, none⟩
  | .keyOrEnd opening, frames =>
      ⟨unwind (.record opening []
        (breakAt .endInObject .endInObject .endInObject last)) (faultAt .endInObject last)
        frames, none⟩
  | .key opening done, frames =>
      ⟨unwind (.record opening done.reverse
        (breakAt .endInValue .endInObject .trailingComma last)) (faultAt .endInValue last)
        frames, none⟩
  | .colon opening done label, frames =>
      let read := faultAt .endInObject last
      ⟨unwind (.broken (some last) read read) read (.record opening done label :: frames), none⟩
  | .commaOrEnd value, frame@(.list ..) :: outer =>
      ⟨unwind (frame.fill value (breakAt .endInList .endInList .endInList last))
        (faultAt .endInList last) outer, none⟩
  | .commaOrEnd value, frame@(.record ..) :: outer =>
      ⟨unwind (frame.fill value (breakAt .endInObject .endInObject .endInObject last))
        (faultAt .endInObject last) outer, none⟩
  | .commaOrEnd value, [] => ⟨value, none⟩
  | .nothing value, _ => ⟨value, none⟩

def assemble (last : Place) : Expect → List Frame → List Lexeme → Reading
  | expect, frames, [] => atEnd last expect frames
  | expect, frames, lexeme :: rest =>
      let next := match rest with
        | following :: _ => following.start
        | [] => last
      match step lexeme next expect frames with
      | .more expect frames => assemble last expect frames rest
      | .done reading => reading

def Reading.ofText (text : String) : Reading :=
  let (lexemes, last) := tokens text
  assemble last .value [] lexemes

mutual

def Document.ofJson : Json → Document
  | .null => .null ⟨none, none, none⟩
  | .bool value => .bool value ⟨none, none, none⟩
  | .number value => .number (.ok value) ⟨none, none, none⟩
  | .string value => .string (.ok value) ⟨none, none, none⟩
  | .array items => .list ⟨none, none⟩ (Document.ofItems items) (.closed none)
  | .object members => .record ⟨none, none⟩ (Document.ofMembers members) (.closed none)

def Document.ofItems : List Json → List Document
  | [] => []
  | item :: rest => Document.ofJson item :: Document.ofItems rest

def Document.ofMembers : List (String × Json) → List (Label × Document)
  | [] => []
  | (key, value) :: rest =>
      (⟨.ok key, none, none⟩, Document.ofJson value) :: Document.ofMembers rest

end

end Wireframe.Json
