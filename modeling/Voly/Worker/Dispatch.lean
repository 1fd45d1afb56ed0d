/-
One queued task and the deliveries of its message: what an acknowledgement
means.
-/
import Voly.Worker.Tasks

namespace Worker

open Python Interaction

/-- The table, the queue, and whether a run request has succeeded. -/
structure DispatchWorld where
  rows : String → Option Task
  queue : List QueueMessage := []
  answered : Bool := false

def DispatchWorld.save (world : DispatchWorld) (task : Task) :
    DispatchWorld :=
  { world with
    rows := Function.update world.rows task.id
      (some (savedTask (world.rows task.id) task)) }

/-- The random id, the time, the agent, and what comes of a run request. -/
structure Surroundings where
  id : String
  now : Int
  known : Bool
  call : AgentCall

def AgentCall.ok : AgentCall → Bool
  | thrown => false
  | response ok _ => ok

def Surroundings.answer (around : Surroundings) (world : DispatchWorld) :
    (op : TaskOp) → TaskReply op × DispatchWorld
  | .randomId => (around.id, world)
  | .now => (around.now, world)
  | .agentExists _ => (around.known, world)
  | .load id => (world.rows id, world)
  | .save task => ((), world.save task)
  | .send message => ((), { world with queue := world.queue ++ [message] })
  | .runAgent _ =>
      (around.call,
        { world with answered := world.answered || around.call.ok })

/-- The table and the queue after a `POST /tasks`. -/
def afterPost (body : Option TaskRequest) (around : Surroundings)
    (world : DispatchWorld) : DispatchWorld :=
  ((postTask body).eval around.answer world).2

def deliver (hasAgent : Bool) (message : QueueMessage) (around : Surroundings)
    (world : DispatchWorld) : Outcome × DispatchWorld :=
  (processQueueMessage hasAgent message).eval around.answer world

def Ended : Option Task → Prop
  | some task => task.state = .completed ∨ task.state = .failed
  | none => False

instance (row : Option Task) : Decidable (Ended row) := by
  unfold Ended
  split <;> infer_instance

/-- An acknowledged task was answered by the agent Worker, or has ended. -/
def NoneLost (hasAgent : Bool) (message : QueueMessage) :
    DispatchWorld → List Surroundings → Prop
  | _, [] => True
  | world, around :: rest =>
      let out := deliver hasAgent message around world
      (out.1.acknowledges = true →
        out.2.answered = true ∨ Ended (out.2.rows message.taskId)) ∧
        NoneLost hasAgent message out.2 rest

instance decidableNoneLost (hasAgent : Bool) (message : QueueMessage) :
    (world : DispatchWorld) → (deliveries : List Surroundings) →
      Decidable (NoneLost hasAgent message world deliveries)
  | _, [] => isTrue trivial
  | world, around :: rest =>
      have := decidableNoneLost hasAgent message
        (deliver hasAgent message around world).2 rest
      inferInstanceAs (Decidable (_ ∧ _))

/-- The run request is answered, with a readable text if not ok. -/
def AgentCall.Settles : AgentCall → Prop
  | response true _ => True
  | response false (some _) => True
  | response false none => False
  | thrown => False

/-- An agent Worker is configured, and the first request settles or is the last.
-/
def FirstCallSettles (hasAgent : Bool) : List Surroundings → Prop
  | [] => True
  | first :: rest => hasAgent = true ∧ (first.call.Settles ∨ rest = [])

variable {hasAgent : Bool} {message : QueueMessage} {world : DispatchWorld}
  {task : Task}

theorem deliver_begun (around : Surroundings)
    (hrow : world.rows message.taskId = some task)
    (hstate : task.state ≠ .submitted) :
    deliver hasAgent message around world = (.status 200, world) := by
  simp [deliver, processQueueMessage, Prog.eval, Surroundings.answer, hrow,
    hstate]

theorem noneLost_settled (deliveries : List Surroundings)
    (hrow : world.rows message.taskId = some task)
    (hstate : task.state ≠ .submitted)
    (hsettled : world.answered = true ∨ Ended (some task)) :
    NoneLost hasAgent message world deliveries := by
  induction deliveries with
  | nil => trivial
  | cons around rest ih =>
      rw [NoneLost, deliver_begun around hrow hstate]
      exact ⟨fun _ => by rwa [hrow], ih⟩

theorem noneLost_working (deliveries : List Surroundings)
    (hrow : world.rows message.taskId = some task)
    (hstate : task.state = .working) (hanswered : world.answered = false) :
    NoneLost hasAgent message world deliveries ↔ deliveries = [] := by
  cases deliveries with
  | nil => simp [NoneLost]
  | cons around rest =>
      have hbegun : task.state ≠ .submitted := by simp [hstate]
      simp [NoneLost, deliver_begun around hrow hbegun, hrow, hanswered,
        hstate, Ended, Outcome.acknowledges]

/-- The row that the first delivery saves. -/
def QueueMessage.begun (message : QueueMessage) (task : Task) (now : Int) :
    Task :=
  message.task .working (Dict.set task.metadata "queued_at" (.num now))
    task.createdAt

theorem deliver_submitted (around : Surroundings)
    (hrow : world.rows message.taskId = some task)
    (hstate : task.state = .submitted) :
    deliver hasAgent message around world =
      if hasAgent then
        (dispatch message task).eval around.answer
          (world.save (message.begun task around.now))
      else (.status 200, world.save (message.begun task around.now)) := by
  cases hasAgent <;>
    simp [deliver, processQueueMessage, Prog.eval, Surroundings.answer, hrow,
      hstate, QueueMessage.begun]

theorem save_rows (saved : Task) (h : saved.id = message.taskId) :
    (world.save saved).rows message.taskId =
      some (savedTask (world.rows message.taskId) saved) := by
  simp [DispatchWorld.save, ← h]

/-- An unsettled run request leaves the message and the task as they were. -/
theorem dispatch_unsettled (around : Surroundings)
    (h : ¬around.call.Settles) :
    (dispatch message task).eval around.answer world = (.thrown, world) := by
  cases hcall : around.call with
  | thrown =>
      simp [dispatch, Prog.eval, Surroundings.answer, hcall, AgentCall.ok]
  | response ok text =>
      cases ok with
      | true => simp [hcall, AgentCall.Settles] at h
      | false =>
          cases text with
          | none =>
              simp [dispatch, Prog.eval, Surroundings.answer, hcall,
                AgentCall.ok]
          | some text => simp [hcall, AgentCall.Settles] at h

/-- A settled run request is acknowledged, answered or failed. -/
theorem dispatch_settled (around : Surroundings) (h : around.call.Settles)
    {begun : Task} (hrow : world.rows message.taskId = some begun)
    (hstate : begun.state = .working) :
    ∃ world' task', (dispatch message task).eval around.answer world =
        (.status 200, world') ∧ world'.rows message.taskId = some task' ∧
      task'.state ≠ .submitted ∧
      (world'.answered = true ∨ Ended (some task')) := by
  cases hcall : around.call with
  | thrown => simp [hcall, AgentCall.Settles] at h
  | response ok text =>
      cases ok with
      | true =>
          refine ⟨{ world with answered := true }, begun, ?_, hrow, ?_,
            .inl rfl⟩
          · simp [dispatch, Prog.eval, Surroundings.answer, hcall,
              AgentCall.ok]
          · simp [hstate]
      | false =>
          cases text with
          | none => simp [hcall, AgentCall.Settles] at h
          | some text =>
              have hfailed : (savedTask (world.rows message.taskId)
                  (message.task .failed (Dict.set task.metadata
                    "dispatch_error" (.str (slice 500 text)))
                    task.createdAt)).state = .failed := savedTask_state _ _
              refine ⟨_, _, ?_, save_rows _ rfl, ?_, .inr (.inr hfailed)⟩
              · simp [dispatch, Prog.eval, Surroundings.answer, hcall,
                  AgentCall.ok]
              · rw [hfailed]
                decide

theorem noneLost_submitted (deliveries : List Surroundings)
    (hrow : world.rows message.taskId = some task)
    (hstate : task.state = .submitted) (hanswered : world.answered = false) :
    NoneLost hasAgent message world deliveries ↔
      FirstCallSettles hasAgent deliveries := by
  cases deliveries with
  | nil => simp [NoneLost, FirstCallSettles]
  | cons around rest =>
      rw [NoneLost, deliver_submitted around hrow hstate]
      have hmarked := @save_rows message world
        (message.begun task around.now) rfl
      have hworking := savedTask_state (world.rows message.taskId)
        (message.begun task around.now)
      change _ = TaskState.working at hworking
      generalize savedTask (world.rows message.taskId)
        (message.begun task around.now) = begun at hmarked hworking
      have hlater : (world.save (message.begun task around.now)).answered =
          false := hanswered
      generalize world.save (message.begun task around.now) = marked
        at hmarked hlater ⊢
      cases hasAgent with
      | false =>
          have hnotEnded : ¬Ended (some begun) := by simp [Ended, hworking]
          simp [FirstCallSettles, hmarked, hnotEnded, Outcome.acknowledges,
            hlater]
      | true =>
          by_cases hsettles : around.call.Settles
          · obtain ⟨world', task', hdispatch, hrow', hstate', hsettled⟩ :=
              @dispatch_settled message marked task around hsettles begun
                hmarked hworking
            have hrest := @noneLost_settled true message world' task' rest
              hrow' hstate' hsettled
            simp [hdispatch, hrow', hsettled, hrest, FirstCallSettles,
              hsettles]
          · have hdispatch := @dispatch_unsettled message marked task around
              hsettles
            have hrest := @noneLost_working true message marked begun rest
              hmarked hworking hlater
            simp [hdispatch, hrest, FirstCallSettles, hsettles,
              Outcome.acknowledges]

theorem submitted_of_sent {body : Option TaskRequest} {around : Surroundings}
    (h : (afterPost body around world).queue = world.queue ++ [message]) :
    ∃ task, (afterPost body around world).rows message.taskId = some task ∧
      task.state = .submitted := by
  have hunsent : world.queue ≠ world.queue ++ [message] := by simp
  have hsubmit : ∀ request : TaskRequest,
      ((submit request).eval around.answer world).2.queue =
        world.queue ++ [message] →
      ∃ task, ((submit request).eval around.answer world).2.rows
        message.taskId = some task ∧ task.state = .submitted := by
    intro request hsent
    unfold submit at hsent ⊢
    simp only [Prog.eval, Surroundings.answer] at hsent ⊢
    split at hsent
    · next hqueued =>
        simp only [Prog.eval, Surroundings.answer, DispatchWorld.save,
          List.append_cancel_left_eq, List.cons.injEq] at hsent
        simp only [if_pos hqueued, Prog.eval, Surroundings.answer, ← hsent.1,
          DispatchWorld.save, Function.update_self]
        exact ⟨_, rfl, savedTask_state _ _⟩
    · exact absurd hsent hunsent
  cases body with
  | none => exact absurd h hunsent
  | some request =>
      simp only [afterPost, postTask] at h ⊢
      split at h
      · next hname =>
          rw [if_pos hname]
          exact hsubmit request h
      · next hname =>
          simp only [if_neg hname, Prog.eval, Surroundings.answer] at h ⊢
          by_cases hknown : around.known = true
          · simp only [hknown, if_true] at h ⊢
            exact hsubmit request h
          · simp only [hknown] at h
            exact absurd h hunsent

/-- No acknowledged task is lost iff an agent Worker is configured and the first
request settles or is the last. -/
theorem none_lost_iff (body : Option TaskRequest) (around : Surroundings)
    (hsent : (afterPost body around world).queue = world.queue ++ [message])
    (hasAgent : Bool) (deliveries : List Surroundings) :
    NoneLost hasAgent message
        { afterPost body around world with answered := false } deliveries ↔
      FirstCallSettles hasAgent deliveries := by
  obtain ⟨task, hrow, hstate⟩ := submitted_of_sent hsent
  exact noneLost_submitted deliveries hrow hstate rfl

namespace DispatchWitness

def body : Option TaskRequest :=
  some { agentName := some "coder", title := "title" }

def around (call : AgentCall) : Surroundings := ⟨"t", 0, true, call⟩

def queued : QueueMessage := ⟨"t", "coder", "title", "title"⟩

def start : DispatchWorld := { rows := fun _ => none }

theorem sent : (afterPost body (around .thrown) start).queue =
    start.queue ++ [queued] := by
  decide +kernel

/-- A run request that throws is retried, and its task acknowledged without an
agent. -/
theorem thrown_call_lost :
    ¬NoneLost true queued
      { afterPost body (around .thrown) start with answered := false }
      [around .thrown, around .thrown] := by
  decide +kernel

theorem failed_call_kept :
    NoneLost true queued
      { afterPost body (around .thrown) start with answered := false }
      [around (.response false (some "busy")), around .thrown] :=
  (none_lost_iff body (around .thrown) sent true _).mpr ⟨rfl, .inl trivial⟩

end DispatchWitness

end Worker
