import Wireframe.Json.Tagged
import Wireframe.Session.Payload

namespace Wireframe

open Json (Variant)

inductive Request where
  | startGeneration (prompt device : String)
  | renderDesign (payload : Option Payload)
  | cancelGeneration
  | finishGeneration

namespace Request

structure Start where
  prompt : String
  device : String

def startFields : List (Json.Field Start) := [
  .may "prompt" .text Start.prompt fun s start => { start with prompt := s },
  .may "device" .text Start.device fun s start => { start with device := s }]

def renderFields : List (Json.Field (Option Payload)) := [
  ⟨"json", false, fun payload => some ((payload.map Payload.toJson).getD .null),
    fun document _ => document.optional Payload.codec.decode⟩]

def variants : List (Variant Request) := [
  .record "start-generation" "struct variant Request::StartGeneration" startFields ⟨"", ""⟩
    fun start => .startGeneration start.prompt start.device,
  .record "render-design" "struct variant Request::RenderDesign" renderFields none .renderDesign,
  .unit "cancel-generation" .cancelGeneration,
  .unit "finish-generation" .finishGeneration]

def decode (document : Json.Document) : Except Json.Fault Request :=
  document.tagged "internally tagged enum Request" variants

def ofText (text : String) : Except Json.Fault Request := Json.readText decode text

def toJson : Request → Json
  | .startGeneration prompt device =>
      Json.tagged "start-generation" (Json.writeFields startFields ⟨prompt, device⟩)
  | .renderDesign payload => Json.tagged "render-design" (Json.writeFields renderFields payload)
  | .cancelGeneration => Json.tagged "cancel-generation" []
  | .finishGeneration => Json.tagged "finish-generation" []

end Request

inductive Outcome where
  | generationStarted (frameId : Nat) (frameName : String)
  | generationComplete (nodeCount : Nat)
  | cancelled
  | finished
  | error (message : String)
  deriving DecidableEq

structure Response where
  outcome : Outcome
  notifications : List String
  deriving DecidableEq

namespace Response

/-- Notifications may be left out; an empty list of them is not written. -/
def notificationsField {α : Type} (get : α → List String) (set : List String → α → α) :
    Json.Field α :=
  ⟨"notifications", false,
    fun record => if (get record).isEmpty then none else some (Json.strings (get record)),
    fun document record => (document.items Json.Document.text).map (set · record)⟩

structure Started where
  frameId : Nat
  frameName : String
  notifications : List String

structure Complete where
  nodeCount : Nat
  notifications : List String

structure Failed where
  message : String
  notifications : List String

def startedFields : List (Json.Field Started) := [
  .must "frameId" (.natural "u64") Started.frameId fun n started => { started with frameId := n },
  .must "frameName" .text Started.frameName fun s started => { started with frameName := s },
  notificationsField Started.notifications fun l started => { started with notifications := l }]

def completeFields : List (Json.Field Complete) := [
  .must "nodeCount" (.natural "usize") Complete.nodeCount
    fun n complete => { complete with nodeCount := n },
  notificationsField Complete.notifications fun l complete => { complete with notifications := l }]

def closedFields : List (Json.Field (List String)) := [notificationsField id fun l _ => l]

def failedFields : List (Json.Field Failed) := [
  .must "message" .text Failed.message fun s failed => { failed with message := s },
  notificationsField Failed.notifications fun l failed => { failed with notifications := l }]

def variants : List (Variant Response) := [
  .record "generation-started" "struct variant Response::GenerationStarted" startedFields
    ⟨0, "", []⟩
    fun started =>
      ⟨.generationStarted started.frameId started.frameName, started.notifications⟩,
  .record "generation-complete" "struct variant Response::GenerationComplete" completeFields ⟨0, []⟩
    fun complete => ⟨.generationComplete complete.nodeCount, complete.notifications⟩,
  .record "cancelled" "struct variant Response::Cancelled" closedFields []
    fun notifications => ⟨.cancelled, notifications⟩,
  .record "finished" "struct variant Response::Finished" closedFields []
    fun notifications => ⟨.finished, notifications⟩,
  .record "error" "struct variant Response::Error" failedFields ⟨"", []⟩
    fun failed => ⟨.error failed.message, failed.notifications⟩]

def decode (document : Json.Document) : Except Json.Fault Response :=
  document.tagged "internally tagged enum Response" variants

def ofText (text : String) : Except Json.Fault Response := Json.readText decode text

def toJson (response : Response) : Json :=
  let notifications := response.notifications
  match response.outcome with
  | .generationStarted frameId frameName =>
      Json.tagged "generation-started"
        (Json.writeFields startedFields ⟨frameId, frameName, notifications⟩)
  | .generationComplete nodeCount =>
      Json.tagged "generation-complete"
        (Json.writeFields completeFields ⟨nodeCount, notifications⟩)
  | .cancelled => Json.tagged "cancelled" (Json.writeFields closedFields notifications)
  | .finished => Json.tagged "finished" (Json.writeFields closedFields notifications)
  | .error message =>
      Json.tagged "error" (Json.writeFields failedFields ⟨message, notifications⟩)

end Response

end Wireframe
