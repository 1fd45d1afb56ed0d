/-
The handlers of the A2A Worker and its queue consumer, as programs that load and
save whole rows.
-/
import Voly.Interaction.System
import Voly.Python.Json

namespace Worker

open Python Interaction

inductive TaskState where
  | submitted
  | working
  | completed
  | failed
deriving DecidableEq

/-- A row of `a2a_tasks`; `metadata` is the object that its text stands for. -/
structure Task where
  id : String
  agentName : String
  title : String
  description : String
  state : TaskState
  result : String := ""
  error : String := ""
  metadata : Dict Json := []
  createdAt : Int

structure QueueMessage where
  taskId : String
  agentName : String
  title : String
  description : String
deriving DecidableEq

/-- A network error, or a response, whose text may be unreadable. -/
inductive AgentCall where
  | thrown
  | response (ok : Bool) (text : Option String)

inductive TaskOp where
  | randomId
  | now
  | agentExists (name : String)
  | load (id : String)
  | save (task : Task)
  | send (message : QueueMessage)
  | runAgent (message : QueueMessage)

abbrev TaskReply : TaskOp → Type
  | .randomId => String
  | .now => Int
  | .agentExists _ => Bool
  | .load _ => Option Task
  | .save _ => Unit
  | .send _ => Unit
  | .runAgent _ => AgentCall

/-- How a handler ends: it answers with a status, or it throws. -/
inductive Outcome where
  | status (code : Nat)
  | thrown
deriving DecidableEq

abbrev TaskProg := Prog TaskOp TaskReply Outcome

/-- `{...metadata, ...others}`. -/
def spread (metadata others : Dict Json) : Dict Json :=
  others.foldl (fun all item => Dict.set all item.1 item.2) metadata

/-- The body of `POST /tasks`. -/
structure TaskRequest where
  agentName : Option String := none
  title : String
  description : Option String := none
  async : Option Bool := none
  metadata : Option (Dict Json) := none

/-- The body of `PUT /tasks/:id`. -/
structure TaskUpdate where
  state : Option TaskState := none
  result : Option String := none
  error : Option String := none
  metadata : Option (Dict Json) := none

/-- A new task is saved, and queued unless it has no agent or asks not to be. -/
def submit (request : TaskRequest) : TaskProg :=
  let agentName := request.agentName.getD ""
  let description := request.description.getD request.title
  .ask .randomId fun id =>
  .ask .now fun now =>
  .ask (.save {
    id, agentName, description, title := request.title, state := .submitted,
    metadata := request.metadata.getD [], createdAt := now }) fun _ =>
  if request.async ≠ some false ∧ agentName ≠ "" then
    .ask (.send ⟨id, agentName, request.title, description⟩) fun _ =>
    .done (.status 201)
  else .done (.status 201)

def postTask (body : Option TaskRequest) : TaskProg :=
  match body with
  | none => .done .thrown
  | some request =>
      let agentName := request.agentName.getD ""
      if agentName = "" then submit request
      else
        .ask (.agentExists agentName) fun known =>
        if known then submit request else .done (.status 404)

/-- `PUT /tasks/:id`; no body stands for one that is not JSON. -/
def putTask (id : String) (body : Option TaskUpdate) : TaskProg :=
  .ask (.load id) fun
  | none => .done (.status 404)
  | some existing =>
      match body with
      | none => .done .thrown
      | some body =>
          .ask (.save {
            id, agentName := existing.agentName, title := existing.title
            description := existing.description
            state := body.state.getD existing.state
            result := body.result.getD existing.result
            error := body.error.getD existing.error
            metadata := spread existing.metadata (body.metadata.getD [])
            createdAt := existing.createdAt }) fun _ =>
          .done (.status 200)

/-- `POST /tasks/:id/complete`. -/
def completeTask (id : String) (body : Option (Option String)) : TaskProg :=
  .ask (.load id) fun
  | none => .done (.status 404)
  | some existing =>
      if existing.state = .completed then .done (.status 200)
      else
        match body with
        | none => .done .thrown
        | some result =>
            .ask (.save {
              id, agentName := existing.agentName, title := existing.title
              description := existing.description, state := .completed
              result := result.getD "", createdAt := existing.createdAt })
              fun _ =>
            .done (.status 200)

/-- `POST /tasks/:id/fail`. -/
def failTask (id : String) (body : Option (Option String)) : TaskProg :=
  .ask (.load id) fun
  | none => .done (.status 404)
  | some existing =>
      match body with
      | none => .done .thrown
      | some error =>
          .ask (.save {
            id, agentName := existing.agentName, title := existing.title
            description := existing.description, state := .failed
            error := error.getD "failed", createdAt := existing.createdAt })
            fun _ =>
          .done (.status 200)

def QueueMessage.task (message : QueueMessage) (state : TaskState)
    (metadata : Dict Json) (createdAt : Int) : Task where
  id := message.taskId
  agentName := message.agentName
  title := message.title
  description := message.description
  state := state
  metadata := metadata
  createdAt := createdAt

/-- The agent Worker runs the task; a response that is not ok fails it. -/
def dispatch (message : QueueMessage) (existing : Task) : TaskProg :=
  .ask (.runAgent message) fun
  | .thrown => .done .thrown
  | .response true _ => .done (.status 200)
  | .response false none => .done .thrown
  | .response false (some text) =>
      .ask (.save (message.task .failed
        (Dict.set existing.metadata "dispatch_error"
          (.str (slice 500 text))) existing.createdAt)) fun _ =>
      .done (.status 200)

/-- `hasAgent` tells whether an agent Worker is configured. -/
def processQueueMessage (hasAgent : Bool) (message : QueueMessage) :
    TaskProg :=
  .ask (.load message.taskId) fun
  | none => .done (.status 200)
  | some existing =>
      if existing.state ≠ .submitted then .done (.status 200)
      else
        .ask .now fun now =>
        .ask (.save (message.task .working
          (Dict.set existing.metadata "queued_at" (.num now))
          existing.createdAt)) fun _ =>
        if hasAgent then dispatch message existing else .done (.status 200)

/-- A message is acknowledged unless its processing throws; then it is
retried. -/
def Outcome.acknowledges : Outcome → Bool
  | .status _ => true
  | .thrown => false

/-- `saveTask`: the row that an upsert leaves; `created_at` stays. -/
def savedTask (old : Option Task) (task : Task) : Task :=
  match old with
  | some old => { task with createdAt := old.createdAt }
  | none => task

theorem savedTask_state (old : Option Task) (task : Task) :
    (savedTask old task).state = task.state := by
  cases old <;> rfl

theorem savedTask_result (old : Option Task) (task : Task) :
    (savedTask old task).result = task.result := by
  cases old <;> rfl

end Worker
