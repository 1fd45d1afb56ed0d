/-
Any number of task requests and deliveries, interleaved: when a task that has
ended stays ended.
-/
import Voly.Worker.Tasks

namespace Worker

open Python Interaction

/-- A request, or one delivery of a queued message. -/
inductive Handler where
  | post (body : Option TaskRequest)
  | put (id : String) (body : Option TaskUpdate)
  | complete (id : String) (body : Option (Option String))
  | fail (id : String) (body : Option (Option String))
  | deliver (hasAgent : Bool) (message : QueueMessage)

def Handler.prog : Handler → TaskProg
  | post body => postTask body
  | put id body => putTask id body
  | complete id body => completeTask id body
  | fail id body => failTask id body
  | deliver hasAgent message => processQueueMessage hasAgent message

/-- A `PUT` has no state field. -/
def Handler.Stateless : Handler → Prop
  | put _ (some body) => body.state = none
  | _ => True

variable {I : Type} [DecidableEq I]

/-- The table, and what each handler has last loaded or saved. -/
structure TaskWorld (I : Type) where
  rows : String → Option Task
  seen : I → Option Task := fun _ => none

/-- Reads and writes of the table; every other reply is the proposed one. -/
def serveTasks (who : I) : Serve TaskOp TaskReply (TaskWorld I) :=
  fun world op proposed =>
    match op, proposed with
    | .load id, _ =>
        (world.rows id,
          ⟨world.rows, Function.update world.seen who (world.rows id)⟩)
    | .save task, _ =>
        ((), ⟨Function.update world.rows task.id
            (some (savedTask (world.rows task.id) task)),
          Function.update world.seen who (some task)⟩)
    | .randomId, proposed => (proposed, world)
    | .now, proposed => (proposed, world)
    | .agentExists _, proposed => (proposed, world)
    | .send _, proposed => (proposed, world)
    | .runAgent _, proposed => (proposed, world)

abbrev TaskPool (I : Type) :=
  Pool TaskOp TaskReply I (TaskWorld I) fun _ => Outcome

/-- The handlers beside a table, none of which has begun. -/
def taskPool (handlers : I → Handler) (rows : String → Option Task) :
    TaskPool I where
  world := { rows }
  procs := fun i => (handlers i).prog

/-- A completed task stays, and a failed one is not taken up again. -/
structure StaysEnded (old new : Option Task) : Prop where
  completed : ∀ task, old = some task → task.state = .completed →
    ∃ task', new = some task' ∧ task'.state = .completed ∧
      task'.result = task.result
  failed : ∀ task, old = some task → task.state = .failed →
    ∃ task', new = some task' ∧
      (task'.state = .failed ∨ task'.state = .completed)

/-- The handler is no `/fail` and no `PUT` with a result for a completed
task. -/
def Handler.Spares (row : Task) : Handler → Prop
  | fail _ _ => row.state ≠ .completed
  | put _ (some body) => row.state = .completed → body.result = none
  | _ => True

/-- The handler knows how the task has ended. -/
def KnowsEnd (row : Task) : Option Task → Prop
  | some held => held.state = row.state ∧
      (row.state = .completed → held.result = row.result)
  | none => False

instance (row : Task) (handler : Handler) :
    Decidable (handler.Spares row) := by
  unfold Handler.Spares
  split <;> infer_instance

instance (row : Task) : ∀ held, Decidable (KnowsEnd row held)
  | some _ => inferInstanceAs (Decidable (_ ∧ (_ → _)))
  | none => isFalse id

/-- An ended task is saved only by a handler that saw it end, and not otherwise
ended. -/
def SavesKnowingly (handlers : I → Handler) (world : TaskWorld I) (who : I) :
    TaskOp → Prop
  | .save task => match world.rows task.id with
      | some row => row.state = .completed ∨ row.state = .failed →
          KnowsEnd row (world.seen who) ∧ (handlers who).Spares row
      | none => True
  | _ => True

instance (handlers : I → Handler) (world : TaskWorld I) (who : I)
    (op : TaskOp) : Decidable (SavesKnowingly handlers world who op) := by
  unfold SavesKnowingly
  split
  · split <;> infer_instance
  · infer_instance

def Handler.Saves (held : Option Task) (task : Task) : Handler → Prop
  | post _ => held = none
  | put _ body => ∃ existing update, held = some existing ∧
      body = some update ∧ task.state = update.state.getD existing.state ∧
      task.result = update.result.getD existing.result
  | complete _ _ => ∃ existing, held = some existing ∧
      existing.state ≠ .completed ∧ task.state = .completed
  | fail _ _ => held.isSome = true ∧ task.state = .failed
  | deliver _ _ => ∃ existing, held = some existing ∧
      (existing.state = .submitted ∨ existing.state = .working)

def heldNext (held : Option Task) : (op : TaskOp) → TaskReply op → Option Task
  | .load _, row => row
  | .save task, _ => some task
  | .randomId, _ => held
  | .now, _ => held
  | .agentExists _, _ => held
  | .send _, _ => held
  | .runAgent _, _ => held

def handlerProtocol (handler : Handler) :
    Protocol TaskOp TaskReply (Option Task) where
  allows held op := match op with
    | .save task => handler.Saves held task
    | _ => True
  relies _ _ _ := True
  next := heldNext

theorem submit_follows (body : Option TaskRequest) (request : TaskRequest) :
    (submit request).wp (handlerProtocol (.post body))
      (fun _ _ => True) none := by
  unfold submit
  refine ⟨trivial, fun id _ => ⟨trivial, fun now _ => ⟨rfl, fun _ _ => ?_⟩⟩⟩
  split
  · exact ⟨trivial, fun _ _ => trivial⟩
  · trivial

theorem dispatch_follows (hasAgent : Bool) (message : QueueMessage)
    (existing : Task) {held : Task} (hheld : held.state = .working) :
    (dispatch message existing).wp
      (handlerProtocol (.deliver hasAgent message)) (fun _ _ => True)
      (some held) := by
  refine ⟨trivial, fun call _ => ?_⟩
  cases call with
  | thrown => trivial
  | response ok text =>
      cases ok with
      | true => trivial
      | false =>
          cases text with
          | none => trivial
          | some text => exact ⟨⟨held, rfl, .inr hheld⟩, fun _ _ => trivial⟩

theorem handler_follows (handler : Handler) :
    handler.prog.wp (handlerProtocol handler) (fun _ _ => True) none := by
  cases handler with
  | post body =>
      cases body with
      | none => trivial
      | some request =>
          simp only [Handler.prog, postTask]
          split
          · exact submit_follows _ request
          · refine ⟨trivial, fun known _ => ?_⟩
            dsimp only
            split
            · exact submit_follows _ request
            · trivial
  | put id body =>
      refine ⟨trivial, fun row _ => ?_⟩
      cases row with
      | none => trivial
      | some existing =>
          cases body with
          | none => trivial
          | some update =>
              exact ⟨⟨existing, update, rfl, rfl, rfl, rfl⟩,
                fun _ _ => trivial⟩
  | complete id body =>
      refine ⟨trivial, fun row _ => ?_⟩
      cases row with
      | none => trivial
      | some existing =>
          dsimp only
          split
          · trivial
          · next hstate =>
              cases body with
              | none => trivial
              | some result =>
                  exact ⟨⟨existing, rfl, hstate, rfl⟩, fun _ _ => trivial⟩
  | fail id body =>
      refine ⟨trivial, fun row _ => ?_⟩
      cases row with
      | none => trivial
      | some existing =>
          cases body with
          | none => trivial
          | some error => exact ⟨⟨rfl, rfl⟩, fun _ _ => trivial⟩
  | deliver hasAgent message =>
      refine ⟨trivial, fun row _ => ?_⟩
      cases row with
      | none => trivial
      | some existing =>
          dsimp only
          split
          · trivial
          · next hstate =>
              have hsubmitted := Decidable.of_not_not hstate
              refine ⟨trivial, fun now _ => ⟨?_, fun _ _ => ?_⟩⟩
              · exact ⟨existing, rfl, .inl hsubmitted⟩
              · split
                · exact dispatch_follows hasAgent message existing rfl
                · trivial

theorem StaysEnded.refl (row : Option Task) : StaysEnded row row :=
  ⟨fun task h hstate => ⟨task, h, hstate, rfl⟩,
    fun task h hstate => ⟨task, h, .inl hstate⟩⟩

theorem StaysEnded.trans {old middle new : Option Task}
    (h : StaysEnded old middle) (h' : StaysEnded middle new) :
    StaysEnded old new := by
  constructor
  · intro task hold hstate
    obtain ⟨task', hmiddle, hstate', hresult⟩ := h.completed task hold hstate
    obtain ⟨task'', hnew, hstate'', hresult'⟩ :=
      h'.completed task' hmiddle hstate'
    exact ⟨task'', hnew, hstate'', hresult'.trans hresult⟩
  · intro task hold hstate
    obtain ⟨task', hmiddle, hstate' | hstate'⟩ := h.failed task hold hstate
    · exact h'.failed task' hmiddle hstate'
    · obtain ⟨task'', hnew, hstate'', _⟩ :=
        h'.completed task' hmiddle hstate'
      exact ⟨task'', hnew, .inr hstate''⟩

theorem Handler.Saves.staysEnded {handler : Handler} {held : Option Task}
    {task : Task} (h : handler.Saves held task)
    (hstateless : handler.Stateless) {row : Option Task}
    (hknows : ∀ task, row = some task →
      task.state = .completed ∨ task.state = .failed →
        KnowsEnd task held ∧ handler.Spares task) :
    StaysEnded row (some (savedTask row task)) := by
  have hsaved : ∀ old, row = some old →
      old.state = .completed ∨ old.state = .failed →
      (old.state = .completed → task.state = .completed ∧
        task.result = old.result) ∧
      (old.state = .failed → task.state = .failed ∨
        task.state = .completed) := by
    intro old hold hended
    obtain ⟨hend, hspares⟩ := hknows old hold hended
    cases handler with
    | post body =>
        cases h
        cases hend
    | put id body =>
        obtain ⟨existing, update, rfl, rfl, hstate, hresult⟩ := h
        have hnone : update.state = none := hstateless
        simp only [hnone, Option.getD_none, hend.1] at hstate
        refine ⟨fun hcompleted => ⟨hstate.trans hcompleted, ?_⟩,
          fun hfailed => .inl (hstate.trans hfailed)⟩
        simp [hresult, hspares hcompleted, hend.2 hcompleted]
    | complete id body =>
        obtain ⟨existing, rfl, hnot, hstate⟩ := h
        exact ⟨fun hcompleted => absurd (hend.1.trans hcompleted) hnot,
          fun _ => .inr hstate⟩
    | fail id body =>
        exact ⟨fun hcompleted => absurd hcompleted hspares,
          fun _ => .inl h.2⟩
    | deliver hasAgent message =>
        obtain ⟨existing, rfl, hstate⟩ := h
        rw [hend.1] at hstate
        rcases hstate with hstate | hstate <;>
          simp [hstate] at hended
  constructor
  · intro old hold hcompleted
    obtain ⟨hstate, hresult⟩ := (hsaved old hold (.inl hcompleted)).1 hcompleted
    exact ⟨_, rfl, by rw [savedTask_state, hstate],
      by rw [savedTask_result, hresult]⟩
  · intro old hold hfailed
    have hstate := (hsaved old hold (.inr hfailed)).2 hfailed
    exact ⟨_, rfl, by rwa [savedTask_state]⟩

/-- The world shows what handlers hold, and what rows may have become. -/
structure EndsKept (start : String → Option Task) (world : TaskWorld I)
    (held : I → Option Task) : Prop where
  seen : world.seen = held
  rows : ∀ id, StaysEnded (start id) (world.rows id)

theorem tasks_serve (handlers : I → Handler)
    (hstateless : ∀ i, (handlers i).Stateless)
    (start : String → Option Task) :
    Pool.Serves (fun i => handlerProtocol (handlers i)) serveTasks
      (SavesKnowingly handlers) (EndsKept start) := by
  rintro world held i op reply ⟨hseen, hrows⟩ hallows hok
  subst hseen
  refine ⟨trivial, ?_⟩
  cases op with
  | load id => exact ⟨rfl, hrows⟩
  | save task =>
      refine ⟨rfl, fun id => ?_⟩
      by_cases hid : id = task.id
      · subst hid
        simp only [serveTasks, Function.update_self]
        refine (hrows _).trans (hallows.staysEnded (hstateless i) ?_)
        intro row hrow
        simpa [SavesKnowingly, hrow] using hok
      · simp only [serveTasks, Function.update_of_ne hid]
        exact hrows id
  | randomId | now | agentExists | send | runAgent =>
      exact ⟨(Function.update_eq_self i world.seen).symm, hrows⟩

/-- While ended tasks are saved knowingly, they stay ended, in any interleaving.
-/
theorem tasks_stay_ended (handlers : I → Handler)
    (hstateless : ∀ i, (handlers i).Stateless) (rows : String → Option Task)
    (before after : List (I × Oracle TaskOp TaskReply))
    (hmeets : (taskPool handlers rows).Meets serveTasks
      (SavesKnowingly handlers) (before ++ after)) (id : String) :
    StaysEnded
      ((taskPool handlers rows).run serveTasks before |>.world.rows id)
      ((taskPool handlers rows).run serveTasks (before ++ after)
        |>.world.rows id) := by
  obtain ⟨hbefore, hafter⟩ := Pool.meets_append.mp hmeets
  have hstart : (taskPool handlers rows).Follows
      (fun i => handlerProtocol (handlers i)) (fun _ _ _ => True)
      (EndsKept rows) :=
    ⟨fun _ => none, ⟨rfl, fun id => .refl _⟩,
      fun i => handler_follows (handlers i)⟩
  obtain ⟨held, hkept, hprocs⟩ :=
    Pool.run_follows (tasks_serve handlers hstateless rows) before hbefore
      hstart
  obtain ⟨held', hkept', _⟩ :=
    Pool.run_follows (tasks_serve handlers hstateless _) after hafter
      ⟨held, ⟨hkept.seen, fun id => .refl _⟩, hprocs⟩
  rw [Pool.run_append]
  exact hkept'.rows id

namespace TaskStatesWitness

def row : Task where
  id := "t"
  agentName := "coder"
  title := "title"
  description := "title"
  state := .working
  createdAt := 0

def rows (id : String) : Option Task := if id = "t" then some row else none

def oracle : Oracle TaskOp TaskReply
  | .randomId => "u"
  | .now => 0
  | .agentExists _ => true
  | .load _ => none
  | .save _ => ()
  | .send _ => ()
  | .runAgent _ => .thrown

def handlers (other : Handler) : Bool → Handler
  | true => .complete "t" (some (some "done"))
  | false => other

def turns (order : List Bool) : List (Bool × Oracle TaskOp TaskReply) :=
  order.map fun who => (who, oracle)

theorem not_staysEnded {old new : Option Task}
    (hold : old.map Task.state = some .completed)
    (hnew : new.map Task.state ≠ some .completed) : ¬StaysEnded old new := by
  intro h
  obtain ⟨task, rfl, hstate⟩ := Option.map_eq_some_iff.mp hold
  obtain ⟨task', rfl, hstate', _⟩ := h.completed task rfl hstate
  exact hnew (congrArg some hstate')

/-- A completed task fails by `/fail`, and works again by an old `PUT`. -/
theorem completed_task_changes :
    ¬StaysEnded
        ((taskPool (handlers (.fail "t" (some none))) rows).run serveTasks
          (turns [true, true]) |>.world.rows "t")
        ((taskPool (handlers (.fail "t" (some none))) rows).run serveTasks
          (turns [true, true] ++ turns [false, false]) |>.world.rows "t") ∧
      ¬StaysEnded
        ((taskPool (handlers (.put "t" (some {}))) rows).run serveTasks
          (turns [false, true, true]) |>.world.rows "t")
        ((taskPool (handlers (.put "t" (some {}))) rows).run serveTasks
          (turns [false, true, true] ++ turns [false]) |>.world.rows "t") :=
  ⟨not_staysEnded (by decide +kernel) (by decide +kernel),
    not_staysEnded (by decide +kernel) (by decide +kernel)⟩

/-- A `PUT` of metadata after a task was completed leaves it completed. -/
theorem put_after_complete :
    StaysEnded
      ((taskPool (handlers (.put "t" (some {}))) rows).run serveTasks
        (turns [true, true]) |>.world.rows "t")
      ((taskPool (handlers (.put "t" (some {}))) rows).run serveTasks
        (turns [true, true] ++ turns [false, false]) |>.world.rows "t") := by
  refine tasks_stay_ended (handlers (.put "t" (some {}))) ?_ rows
    (turns [true, true]) (turns [false, false]) ?_ "t"
  · intro who
    cases who <;> trivial
  · decide +kernel

end TaskStatesWitness

end Worker
