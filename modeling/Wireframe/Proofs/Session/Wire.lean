import Wireframe.Proofs.Json.Tagged
import Wireframe.Session.Basic
/-!
Messages on the wire. A response is read back as it was; so is a request that was read from any
document. What a request asks to render is the value under its key, unless that is `null`, and asking
for it does what rendering it does.
-/

namespace Wireframe

open Json (Codec Document Fills Survives tagName)

variable {R : Json.Number → Json.Number → Prop} {depth : Nat}

namespace Payload

/-- To try a string and then any value comes to looking which of them the value is. -/
theorem ofDocument_eq (document : Document) : ofDocument document = document.toJson.map ofJson := by
  rw [ofDocument]
  cases read : document.toJson with
  | error fault => rfl
  | ok value =>
      have same := (Json.toJson_ordered read).toJson_ofJson
      cases value with
      | string source => rfl
      | _ =>
          simp only [bind, Except.bind]
          rw [same]
          rfl

/-- A payload that was read, or none: it comes from a value whose objects are tables. -/
def Sound (payload : Option Payload) : Prop :=
  ∃ value : Json, value.Ordered ∧ payload = value.given.map ofJson

theorem optional_eq (document : Document) :
    document.optional codec.decode =
      (document.optional Document.toJson).map (Option.map ofJson) := by
  by_cases null : ∃ span, document = .null span
  · obtain ⟨span, rfl⟩ := null
    rfl
  · rw [Json.optional_of_ne (not_exists.mp null), Json.optional_of_ne (not_exists.mp null)]
    change (ofDocument document).map some = _
    rw [ofDocument_eq]
    cases document.toJson <;> rfl

theorem optional_ofJson {value : Json} (ordered : value.Ordered) :
    (Document.ofJson value).optional codec.decode = .ok (value.given.map ofJson) := by
  rw [optional_eq, Json.optional_toJson ordered.toJson_ofJson]
  rfl

theorem sound_of_optional {document : Document} {payload : Option Payload}
    (reads : document.optional codec.decode = .ok payload) : Sound payload := by
  rw [optional_eq] at reads
  cases read : document.toJson with
  | ok value =>
      rw [Json.optional_toJson read] at reads
      exact ⟨value, Json.toJson_ordered read, (Except.ok.inj reads).symm⟩
  | error fault =>
      have other : ∀ span, document ≠ .null span := by
        rintro span rfl
        cases read
      rw [Json.optional_of_ne other, read] at reads
      cases reads

theorem written_given (value : Json) :
    ((value.given.map ofJson).map toJson).getD .null = value := by
  cases value <;> rfl

end Payload

namespace Response

theorem fills_notifications {α : Type} {choose : Json.Field α → Option Json} {get : α → List String}
    {set : List String → α → α} {record result : α} {held : List String}
    (there : choose (notificationsField get set) =
      if held.isEmpty then none else some (Json.strings held))
    (absent : set [] record = record) (later : set held record = result) :
    Fills R (depth + 1) choose [notificationsField get set] record result := by
  subst later
  cases held with
  | nil =>
      rw [absent]
      exact .skip there rfl .done
  | cons notice rest =>
      have kept : (Codec.list .text).Keeps R (depth + 1) (notice :: rest) :=
        Codec.list_keeps fun text _ => Codec.text_keeps text
      refine .take there kept.plain (fun document shows => ?_) .done
      have read : document.items Document.text = .ok (notice :: rest) := kept.reads document shows
      simp only [notificationsField, read]
      rfl

theorem ordered_must {α β : Type} {name : String} {codec : Codec β} {get : α → β}
    {set : β → α → α} {record : α} (ordered : (codec.encode (get record)).Ordered) :
    ∀ value ∈ (Json.Field.must name codec get set).write record, value.Ordered := by
  rintro _ ⟨⟩
  exact ordered

theorem ordered_notifications {α : Type} {get : α → List String} {set : List String → α → α}
    (record : α) : ∀ value ∈ (notificationsField get set).write record, value.Ordered := by
  intro value written
  dsimp only [notificationsField] at written
  split at written
  · cases written
  · cases written
    exact .array (List.forall_mem_map.mpr fun notice _ => .string notice)

theorem started_survives (started : Started) :
    Survives decode (Json.tagged "generation-started" (Json.writeFields startedFields started))
      ⟨.generationStarted started.frameId started.frameName, started.notifications⟩ := by
  have fills : Fills Eq 1 (·.write started) startedFields ⟨0, "", []⟩ started :=
    .must rfl (Codec.natural_keeps rfl fun _ => Eq.symm) <| .must rfl (Codec.text_keeps _) <|
      fills_notifications rfl rfl rfl
  refine fills.survives variants "generation-started" rfl ?_ (by decide)
  simp only [startedFields, List.forall_mem_cons]
  exact ⟨ordered_must (.number _), ordered_must (.string _), ordered_notifications _,
    List.forall_mem_nil _⟩

theorem complete_survives (complete : Complete) :
    Survives decode (Json.tagged "generation-complete" (Json.writeFields completeFields complete))
      ⟨.generationComplete complete.nodeCount, complete.notifications⟩ := by
  have fills : Fills Eq 1 (·.write complete) completeFields ⟨0, []⟩ complete :=
    .must rfl (Codec.natural_keeps rfl fun _ => Eq.symm) <| fills_notifications rfl rfl rfl
  refine fills.survives variants "generation-complete" rfl ?_ (by decide)
  simp only [completeFields, List.forall_mem_cons]
  exact ⟨ordered_must (.number _), ordered_notifications _, List.forall_mem_nil _⟩

theorem failed_survives (failed : Failed) :
    Survives decode (Json.tagged "error" (Json.writeFields failedFields failed))
      ⟨.error failed.message, failed.notifications⟩ := by
  have fills : Fills Eq 1 (·.write failed) failedFields ⟨"", []⟩ failed :=
    .must rfl (Codec.text_keeps _) <| fills_notifications rfl rfl rfl
  refine fills.survives variants "error" rfl ?_ (by decide)
  simp only [failedFields, List.forall_mem_cons]
  exact ⟨ordered_must (.string _), ordered_notifications _, List.forall_mem_nil _⟩

theorem survives (response : Response) : Survives decode response.toJson response := by
  obtain ⟨outcome, notifications⟩ := response
  have closed : Fills Eq 1 (·.write notifications) closedFields [] notifications :=
    fills_notifications rfl rfl rfl
  have ordered : ∀ field ∈ closedFields, ∀ value ∈ field.write notifications, value.Ordered :=
    List.forall_mem_singleton.mpr (ordered_notifications notifications)
  cases outcome with
  | generationStarted frameId frameName => exact started_survives ⟨frameId, frameName, notifications⟩
  | generationComplete nodeCount => exact complete_survives ⟨nodeCount, notifications⟩
  | cancelled => exact closed.survives variants "cancelled" rfl ordered (by decide)
  | finished => exact closed.survives variants "finished" rfl ordered (by decide)
  | error message => exact failed_survives ⟨message, notifications⟩

end Response

namespace Request

theorem fields_render {members : List (String × Json)} (kind : String)
    (distinct : (members.map Prod.fst).Nodup)
    (ordered : ∀ member ∈ members, member.2.Ordered) :
    (Document.ofJson (.object members)).fields kind renderFields none =
      .ok (((members.lookup "json").bind Json.given).map Payload.ofJson) := by
  rw [renderFields, Json.fields_single kind none rfl distinct]
  dsimp only
  cases there : members.lookup "json" with
  | none => rfl
  | some value =>
      obtain ⟨before, behind, rfl, _⟩ := List.lookup_eq_some_iff.mp there
      have known : value.Ordered := ordered ("json", value) (by simp)
      exact Payload.optional_ofJson known

def Sound : Request → Prop
  | .renderDesign payload => Payload.Sound payload
  | _ => True

theorem sound_of_decode {document : Document} {request : Request}
    (reads : decode document = .ok request) : request.Sound := by
  obtain ⟨variant, listed, rest, reads⟩ := Json.tagged_cases reads
  simp only [variants, List.mem_cons, List.not_mem_nil, or_false] at listed
  rcases listed with rfl | rfl | rfl | rfl
  · obtain ⟨start, _, rfl⟩ := Json.record_cases reads
    trivial
  · obtain ⟨payload, read, rfl⟩ := Json.record_cases reads
    have each : ∀ field ∈ renderFields, ∀ document held found, Payload.Sound held →
        field.read document held = .ok found → Payload.Sound found := by
      intro field only document held found _ reads
      rw [List.mem_singleton.mp only] at reads
      exact Payload.sound_of_optional reads
    have sound : Payload.Sound payload := Json.fields_preserve each ⟨.null, .null, rfl⟩ read
    exact sound
  · obtain ⟨_, _, rfl⟩ := Json.record_cases reads
    trivial
  · obtain ⟨_, _, rfl⟩ := Json.record_cases reads
    trivial

theorem decode_render {members : List (String × Json)} (ordered : (Json.object members).Ordered)
    (asks : members.lookup tagName = some (.string "render-design")) :
    decode (.ofJson (.object members)) =
      .ok (.renderDesign (((members.lookup "json").bind Json.given).map Payload.ofJson)) := by
  have named : variants.find? (fun variant => variant.tag = "render-design") =
      some (.record "render-design" "struct variant Request::RenderDesign" renderFields none
        renderDesign) := rfl
  obtain ⟨others, read, distinct, known, same⟩ :=
    Json.tagged_table "internally tagged enum Request" named ordered asks
  refine read.trans ?_
  rw [Json.Variant.record]
  dsimp only
  rw [fields_render _ distinct known, same "json" (by decide)]
  rfl

theorem start_survives (start : Start) :
    Survives decode (Json.tagged "start-generation" (Json.writeFields startFields start))
      (.startGeneration start.prompt start.device) := by
  -- The names of the fields do not ascend, so the table has them the other way round.
  let prompt : String × Json := ("prompt", .string start.prompt)
  let device : String × Json := ("device", .string start.device)
  have sorted : Table.ofList [(tagName, .string "start-generation"), prompt, device] =
      [device, prompt] ++ [(tagName, .string "start-generation")] := rfl
  have ordered : ∀ member ∈ [prompt, device], member.2.Ordered := by
    simpa using ⟨.string start.prompt, .string start.device⟩
  have others : ∀ member ∈ [prompt, device], member.1 ≠ tagName := by
    simp [prompt, device, tagName]
  exact Json.tagged_survives rfl ordered others sorted rfl rfl

theorem render_survives {payload : Option Payload} (sound : Payload.Sound payload) :
    Survives decode (Json.tagged "render-design" (Json.writeFields renderFields payload))
      (.renderDesign payload) := by
  obtain ⟨value, known, rfl⟩ := sound
  have written : Json.writeFields renderFields (value.given.map Payload.ofJson) =
      [("json", value)] :=
    congrArg (fun written => [("json", written)]) (Payload.written_given value)
  have sorted : Table.ofList [(tagName, .string "render-design"), ("json", value)] =
      [("json", value)] ++ [(tagName, .string "render-design")] := rfl
  have ordered : ∀ member ∈ [("json", value)], member.2.Ordered :=
    List.forall_mem_singleton.mpr known
  have others : ∀ member ∈ [("json", value)], member.1 ≠ tagName := by
    simp [tagName]
  have reads := fields_render "struct variant Request::RenderDesign" (by simp) ordered
  have made : ((Document.ofJson (.object [("json", value)])).fields
      "struct variant Request::RenderDesign" renderFields none).map renderDesign =
        .ok (.renderDesign (value.given.map Payload.ofJson)) := by
    rw [reads]
    rfl
  rw [written]
  exact Json.tagged_survives rfl ordered others sorted made made

theorem survives {request : Request} (sound : request.Sound) :
    Survives decode request.toJson request := by
  cases request with
  | startGeneration prompt device => exact start_survives ⟨prompt, device⟩
  | renderDesign payload => exact render_survives sound
  | cancelGeneration =>
      have fills : Fills Eq 0 (·.write ()) ([] : List (Json.Field Unit)) () () := .done
      exact fills.survives variants "cancel-generation" rfl (List.forall_mem_nil _) (by decide)
  | finishGeneration =>
      have fills : Fills Eq 0 (·.write ()) ([] : List (Json.Field Unit)) () () := .done
      exact fills.survives variants "finish-generation" rfl (List.forall_mem_nil _) (by decide)

end Request

namespace Session

def withWaiting (waiting : List String) (session : Session) : Session :=
  { session with notifications := waiting ++ session.notifications }

theorem withWaiting_taken (session : Session) :
    session.takeNotifications.2.withWaiting session.notifications = session := by
  obtain ⟨page, state, notifications⟩ := session
  rw [withWaiting, takeNotifications, List.append_nil]

section

variable (waiting : List String) (session : Session)

theorem notify_waiting (message : String) :
    (session.withWaiting waiting).notify message = (session.notify message).withWaiting waiting := by
  rw [notify, notify, withWaiting, withWaiting, List.append_assoc]

theorem abort_waiting (frame : Nat) (error : InputError) :
    (session.withWaiting waiting).abort frame error =
      (session.abort frame error).withWaiting waiting :=
  notify_waiting waiting ⟨session.page.remove frame, .idle, session.notifications⟩ _

theorem destination_waiting :
    (session.withWaiting waiting).destination =
      session.destination.map id (withWaiting waiting) := by
  obtain ⟨page, state, notifications⟩ := session
  cases state with
  | idle => exact congrArg _ (notify_waiting waiting _ _)
  | populated frame => exact congrArg _ (notify_waiting waiting _ _)
  | awaiting frame =>
      unfold destination withWaiting
      dsimp only
      cases page.frame? frame with
      | some node => rfl
      | none => exact congrArg _ (notify_waiting waiting ⟨page, .idle, notifications⟩ _)

theorem attach_waiting (frame : Nat) (nodes : List Node) (renderer : Renderer) :
    (session.withWaiting waiting).attach frame nodes renderer =
      (session.attach frame nodes renderer).map id (withWaiting waiting) := by
  unfold attach withWaiting
  dsimp only
  split
  · exact congrArg _ (notify_waiting waiting ⟨_, .idle, session.notifications⟩ _)
  · rw [List.append_assoc]
    rfl

theorem render_waiting (env : Environment) (payload : Payload) :
    (session.withWaiting waiting).render env payload =
      (session.render env payload).map id (withWaiting waiting) := by
  -- One case for each way in which a render ends; in all of them its notices come last.
  unfold render
  rw [destination_waiting]
  cases session.destination with
  | mk result session =>
      cases result with
      | error refusal => rfl
      | ok frame =>
          dsimp only [Prod.map, id]
          cases payload.toTree with
          | error fault => exact congrArg (Prod.mk _) (abort_waiting waiting session frame _)
          | ok value =>
              dsimp only
              cases made : (Renderer.fresh session.page.lastId).tree env value with
              | mk result renderer =>
                  have same : (Renderer.fresh (session.withWaiting waiting).page.lastId).tree env
                      value = (result, renderer) := made
                  rw [same]
                  cases result with
                  | error error =>
                      exact congrArg (Prod.mk _) (abort_waiting waiting session frame error)
                  | ok nodes => exact attach_waiting waiting session frame nodes renderer

end

def renderOutcome : Except SessionError Report → Outcome
  | .ok report => .generationComplete report.nodeCount
  | .error error => .error error.message

/-- Handling a request does to a session what a render does, and answers with what this comes to and
with the notices that it adds to those that are waiting. -/
structure AnswersRender (env : Environment) (session : Session) (request : Request)
    (payload : Payload) : Prop where
  page : (session.handle env request).2.page = (session.render env payload).2.page
  state : (session.handle env request).2.state = (session.render env payload).2.state
  notices : (session.render env payload).2.notifications =
    session.notifications ++ (session.handle env request).1.notifications
  outcome : (session.handle env request).1.outcome =
    renderOutcome (session.render env payload).1

theorem handle_render (env : Environment) (session : Session) (payload : Payload) :
    session.handle env (.renderDesign (some payload)) =
      let (result, after) := session.takeNotifications.2.render env payload
      (⟨renderOutcome result, after.notifications⟩, after.takeNotifications.2) := by
  unfold handle answer
  dsimp only
  cases session.takeNotifications.2.render env payload with
  | mk result after => cases result <;> rfl

theorem answers_render (env : Environment) (session : Session) (payload : Payload) :
    AnswersRender env session (.renderDesign (some payload)) payload := by
  have handled := session.handle_render env payload
  -- Both renders are that of the session whose waiting notices are taken.
  have rendered := render_waiting session.notifications session.takeNotifications.2 env payload
  rw [withWaiting_taken] at rendered
  generalize session.takeNotifications.2.render env payload = bare at handled rendered
  constructor <;> rw [handled, rendered] <;> rfl

/-- Every response is read back from what is written for it; so is every request that was read. A
request to render asks for nothing if its object has no value under the key or `null`, and otherwise
for what the payload made from the value stands for: to handle it does what rendering this payload
does. -/
theorem messages_survive :
    (∀ response : Response, Survives Response.decode response.toJson response) ∧
    (∀ document request, Request.decode document = .ok request →
      Survives Request.decode request.toJson request) ∧
    ∀ members, (Json.object members).Ordered →
      members.lookup "type" = some (.string "render-design") →
      ∃ payload, Request.decode (.ofJson (.object members)) = .ok (.renderDesign payload) ∧
        (payload = none ↔
          members.lookup "json" = none ∨ members.lookup "json" = some .null) ∧
        ∀ value, members.lookup "json" = some value → value ≠ .null →
          payload = some (.ofJson value) ∧
            ∀ env session, AnswersRender env session (.renderDesign payload) (.ofJson value) := by
  refine ⟨Response.survives, fun document request reads =>
    Request.survives (Request.sound_of_decode reads), fun members ordered asks => ?_⟩
  refine ⟨_, Request.decode_render ordered asks, ?_, ?_⟩
  · cases members.lookup "json" with
    | none => simp
    | some value => cases value <;> simp [Json.given]
  · intro value there other
    rw [there, Option.bind_some, Json.given_of_ne other, Option.map_some]
    exact ⟨rfl, fun env session => answers_render env session _⟩

/-- A tree that has a tag of its own. -/
theorem messages_survive_nested :
    let tree : Json := .object [("json", .null), ("type", .string "cancel-generation")]
    let request : Request := .renderDesign (some (.tree tree))
    Request.decode (.ofJson (.object [("json", tree), ("type", .string "render-design")])) =
        .ok request ∧ Survives Request.decode request.toJson request := by
  intro tree request
  have ascends (value : Json) (tag : String) :
      Table.Ascends [("json", value), ("type", .string tag)] := by
    have before : "json" < "type" := by decide
    simpa [Table.Ascends] using before
  have inner : tree.Ordered :=
    .object (ascends _ _) (by simpa using ⟨.null, .string "cancel-generation"⟩)
  have ordered :
      (Json.object [("json", tree), ("type", .string "render-design")]).Ordered :=
    .object (ascends _ _) (by simpa using ⟨inner, .string "render-design"⟩)
  obtain ⟨_, requests, renders⟩ := messages_survive
  obtain ⟨payload, read, _, given⟩ := renders _ ordered rfl
  obtain ⟨rfl, _⟩ := given tree rfl nofun
  exact ⟨read, requests _ _ read⟩

end Session

end Wireframe
