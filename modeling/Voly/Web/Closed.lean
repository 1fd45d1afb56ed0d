/-
When the record of a web run is closed with the status that the run has earned.
-/
import Voly.Web.Run

namespace Voly.Web

open Python Interaction Voly.Runtime

/-- The call finishes the record with the status that the run has earned. -/
def closesItself (req : RunRequest) (conduct : Conduct) : Bool :=
  match req.workflow, conduct.outcome with
  | .reviewUntilClean, .returned _ _ _ => !req.dryRun
  | .reviewUntilClean, .raised _ => false
  | .unset, outcome =>
      if req.executor = "pipeline" then
        conduct.tracked && conduct.team.any fun team =>
          team.status == some outcome.earned
      else
        match outcome with
        | .returned _ _ _ => conduct.tracked
        | .raised _ => false

/-- A result of a run that succeeded has a JSON form. -/
def CallOutcome.streams : CallOutcome → Bool
  | .returned success _ encodes => !success || encodes
  | .raised _ => true

/-- The client stays, unless the call closes the record, and a success streams.
-/
def Stays (req : RunRequest) (conduct : Conduct) (world : RunWorld) :
    WebEvent → Prop
  | .cancel =>
      world.generator = .waiting ∨ world.generator = .beating →
        closesItself req conduct = true
  | .wake disconnected _ =>
      (world.worker = .finished →
        (launchRun req conduct).outcome.streams = true) ∧
      (world.worker ≠ .finished → disconnected = true →
        closesItself req conduct = true)
  | .resume | .write _ | .finish => True

instance (req : RunRequest) (conduct : Conduct) (world : RunWorld)
    (event : WebEvent) : Decidable (Stays req conduct world event) :=
  match event with
  | .cancel => inferInstanceAs (Decidable (_ → _))
  | .wake _ _ => inferInstanceAs (Decidable (_ ∧ _))
  | .resume | .write _ | .finish => isTrue trivial

def TrackerCall.statusFrom (status : RunStatus) : TrackerCall → RunStatus
  | .start _ _ _ _ _ => .running
  | .progress _ => status
  | .finish status _ _ => status

def statusAfter (status : RunStatus) (writes : List TrackerCall) : RunStatus :=
  writes.foldl TrackerCall.statusFrom status

theorem status_apply (now : Rat) (rec : Runtime.RunRecord)
    (write : TrackerCall) :
    (write.apply now rec).status = write.statusFrom rec.status := by
  cases write with
  | start task roles planId graphNodes graphEdges => rfl
  | progress call => cases call <;> rfl
  | finish status error stepStatuses => rfl

theorem statusAfter_progress (status : RunStatus) (progress : List Progress)
    (writes : List TrackerCall) :
    statusAfter status (progress.map .progress ++ writes) =
      statusAfter status writes := by
  induction progress with
  | nil => rfl
  | cons first progress ih => exact ih

theorem statusAfter_finish (outcome : CallOutcome) :
    statusAfter .running outcome.finish =
      match outcome with
      | .returned success _ _ => statusOf success
      | .raised _ => .running := by
  cases outcome <;> rfl

theorem statusOf_ne_running (success : Bool) :
    statusOf success ≠ .running := by
  cases success <;> decide

theorem earned_ne_running (outcome : CallOutcome) :
    outcome.earned ≠ .running := by
  cases outcome with
  | returned success error encodes => exact statusOf_ne_running success
  | raised error => exact RunStatus.noConfusion

theorem statusAfter_tracked (status : RunStatus) (task : String)
    (roles : List String) (planId : String)
    (graphNodes graphEdges : List (Dict String)) (progress : List Progress)
    (last : List TrackerCall) :
    statusAfter status
        (.start task roles planId graphNodes graphEdges ::
          (progress.map .progress ++ last)) =
      statusAfter .running last :=
  statusAfter_progress .running progress last

section

variable (req : RunRequest) (conduct : Conduct)

theorem pipelineRun_leaves :
    statusAfter .running (pipelineRun req conduct).writes =
        conduct.outcome.earned ↔
      (conduct.tracked && conduct.team.any fun team =>
        team.status == some conduct.outcome.earned) = true := by
  have hnot := (earned_ne_running conduct.outcome).symm
  obtain ⟨tracked, executor, team, progress, outcome⟩ := conduct
  cases tracked with
  | false => simpa [pipelineRun, statusAfter] using hnot
  | true =>
      cases team with
      | none => simpa [pipelineRun, statusAfter] using hnot
      | some team =>
          simp only [pipelineRun, statusAfter_tracked]
          cases hstatus : team.status with
          | none => simpa [statusAfter, hstatus] using hnot
          | some status =>
              simp [statusAfter, TrackerCall.statusFrom, hstatus]

theorem executorRun_leaves :
    statusAfter .running (executorRun req conduct).writes =
        conduct.outcome.earned ↔
      (match conduct.outcome with
        | .returned _ _ _ => conduct.tracked
        | .raised _ => false) = true := by
  have hnot := (earned_ne_running conduct.outcome).symm
  obtain ⟨tracked, executor, team, progress, outcome⟩ := conduct
  cases tracked with
  | false => cases outcome <;> simpa [executorRun, statusAfter] using hnot
  | true =>
      simp only [executorRun, if_true, statusAfter_tracked,
        statusAfter_finish]
      cases outcome <;> simp [CallOutcome.earned]

/-- The status left is the earned one exactly where the call closes the record.
-/
theorem leaves_earned_iff :
    statusAfter .running (launchRun req conduct).writes =
        (launchRun req conduct).outcome.earned ↔
      closesItself req conduct = true := by
  cases hworkflow : req.workflow with
  | unset =>
      by_cases hpipeline : req.executor = "pipeline"
      · simp only [launchRun, closesItself, hworkflow, hpipeline, if_true]
        exact pipelineRun_leaves req conduct
      · simp only [launchRun, closesItself, hworkflow, hpipeline, if_false]
        exact executorRun_leaves req conduct
  | reviewUntilClean =>
      obtain ⟨tracked, executor, team, progress, outcome⟩ := conduct
      by_cases hdry : req.dryRun = true
      · cases outcome <;>
          simp [launchRun, closesItself, hworkflow, reviewWorkflowRun, hdry,
            statusAfter, CallOutcome.earned]
      · cases outcome with
        | returned success error encodes =>
            simp [launchRun, closesItself, hworkflow, reviewWorkflowRun, hdry,
              statusAfter_tracked, statusAfter_finish, CallOutcome.earned]
        | raised error =>
            have hleft : statusAfter .running [] ≠ .failed := by decide
            cases tracked <;>
              simp [launchRun, closesItself, hworkflow, reviewWorkflowRun,
                hdry, statusAfter_tracked, statusAfter_finish,
                CallOutcome.earned, hleft]

end

/-- Until its end is taken up, the call has yet to write what it leaves. -/
def Pending (call : WorkerCall) (world : RunWorld) : Prop :=
  match world.worker with
  | .idle => False
  | .working left =>
      statusAfter world.record.status left = statusAfter .running call.writes
  | .finished => world.record.status = statusAfter .running call.writes

/-- Where the generator and the call stand. -/
def Sound (call : WorkerCall) (world : RunWorld) : Prop :=
  match world.generator with
  | .starting => world.worker = .idle ∧ world.record.status = .running
  | .waiting | .beating => Pending call world
  | .abandoned => world.worker = .idle ∨ Pending call world
  | .done | .failing | .exhausted => world.worker = .finished

/-- Nothing has gone wrong for the record. -/
def OnCourse (call : WorkerCall) (world : RunWorld) : Prop :=
  match world.generator with
  | .starting | .waiting | .beating => True
  | .abandoned => world.worker = .idle ∨
      statusAfter .running call.writes = call.outcome.earned
  | .done | .failing | .exhausted => world.record.status = call.outcome.earned

section Steps

variable {call : WorkerCall} {world next : RunWorld}

theorem pending_write {write : TrackerCall} {left : List TrackerCall}
    (now : Rat) (hworker : world.worker = .working (write :: left))
    (h : Pending call world) :
    Pending call
      { world with
        record := write.apply now world.record, worker := .working left } := by
  have hstatus := status_apply now world.record write
  simp only [Pending, hworker] at h ⊢
  rw [hstatus]
  exact h

theorem pending_finish (hworker : world.worker = .working [])
    (h : Pending call world) :
    Pending call { world with worker := .finished } := by
  simp only [Pending, hworker] at h ⊢
  exact h

section

variable (h : Sound call world) {left : List TrackerCall}
  (hworker : world.worker = .working left) {record : Runtime.RunRecord}
  {worker : Worker}
include h hworker

theorem Sound.work
    (hpending : Pending call world →
      Pending call { world with record, worker }) :
    Sound call { world with record, worker } := by
  cases hgenerator : world.generator with
  | waiting =>
      simp only [Sound, hgenerator] at h ⊢
      exact hgenerator ▸ hpending h
  | beating =>
      simp only [Sound, hgenerator] at h ⊢
      exact hgenerator ▸ hpending h
  | abandoned =>
      simp only [Sound, hgenerator, hworker] at h ⊢
      rcases h with hidle | hleft
      · cases hidle
      · exact .inr (hgenerator ▸ hpending hleft)
  | starting =>
      simp only [Sound, hgenerator, hworker] at h
      cases h.1
  | _ =>
      simp only [Sound, hgenerator, hworker] at h
      cases h

theorem onCourse_work (hstarted : worker ≠ .idle) :
    OnCourse call { world with record, worker } ↔ OnCourse call world := by
  cases hgenerator : world.generator with
  | abandoned => simp [OnCourse, hgenerator, hworker, hstarted]
  | done =>
      simp only [Sound, hgenerator, hworker] at h
      cases h
  | failing =>
      simp only [Sound, hgenerator, hworker] at h
      cases h
  | exhausted =>
      simp only [Sound, hgenerator, hworker] at h
      cases h
  | _ => simp only [OnCourse, hgenerator]

end

/-- Taking up the end writes the earned status, unless a success cannot stream.
-/
theorem takeUp_spec (world : RunWorld) (now : Rat) (outcome : CallOutcome) :
    (world.takeUp now outcome).worker = world.worker ∧
      ((world.takeUp now outcome).generator = .done ∨
        (world.takeUp now outcome).generator = .failing) ∧
      ((world.takeUp now outcome).record.status = outcome.earned ↔
        outcome.streams = true) := by
  cases outcome with
  | raised error => exact ⟨rfl, .inr rfl, iff_of_true rfl rfl⟩
  | returned success error encodes =>
      cases encodes with
      | true => exact ⟨rfl, .inl rfl, iff_of_true rfl (Bool.or_true _)⟩
      | false =>
          refine ⟨rfl, .inr rfl, ?_⟩
          cases success with
          | true => exact iff_of_false RunStatus.noConfusion Bool.false_ne_true
          | false => exact iff_of_true rfl rfl

/-- What an event can do, and when. -/
inductive WebMove (call : WorkerCall) (world : RunWorld) :
    WebEvent → RunWorld → Prop
  | launch (h : world.generator = .starting) :
      WebMove call world .resume
        { world with generator := .waiting, worker := .working call.writes }
  | wait (h : world.generator = .beating) :
      WebMove call world .resume { world with generator := .waiting }
  | beat (now : Rat) (h : world.generator = .waiting)
      (hrunning : world.worker ≠ .finished) :
      WebMove call world (.wake false now)
        { world with generator := .beating }
  | notice (now : Rat) (h : world.generator = .waiting)
      (hrunning : world.worker ≠ .finished) :
      WebMove call world (.wake true now)
        { world with generator := .abandoned }
  | takeUp (disconnected : Bool) (now : Rat) (h : world.generator = .waiting)
      (hfinished : world.worker = .finished) :
      WebMove call world (.wake disconnected now)
        (world.takeUp now call.outcome)
  | launchless (h : world.generator = .starting) :
      WebMove call world .cancel { world with generator := .abandoned }
  | leave (h : world.generator = .waiting ∨ world.generator = .beating) :
      WebMove call world .cancel { world with generator := .abandoned }
  | close {event : WebEvent}
      (h : world.generator = .done ∨ world.generator = .failing)
      (hevent : event = .resume ∨ event = .cancel) :
      WebMove call world event { world with generator := .exhausted }
  | write (now : Rat) {write : TrackerCall} {left : List TrackerCall}
      (h : world.worker = .working (write :: left)) :
      WebMove call world (.write now)
        { world with
          record := write.apply now world.record, worker := .working left }
  | finish (h : world.worker = .working []) :
      WebMove call world .finish { world with worker := .finished }

theorem webMove_of_step {event : WebEvent}
    (hstep : webStep call world event = some next) :
    WebMove call world event next := by
  obtain ⟨record, generator, worker⟩ := world
  cases event with
  | resume =>
      cases generator with
      | starting => cases hstep; exact .launch rfl
      | beating => cases hstep; exact .wait rfl
      | done => cases hstep; exact .close (.inl rfl) (.inl rfl)
      | failing => cases hstep; exact .close (.inr rfl) (.inl rfl)
      | waiting => cases hstep
      | exhausted => cases hstep
      | abandoned => cases hstep
  | cancel =>
      cases generator with
      | starting => cases hstep; exact .launchless rfl
      | waiting => cases hstep; exact .leave (.inl rfl)
      | beating => cases hstep; exact .leave (.inr rfl)
      | done => cases hstep; exact .close (.inl rfl) (.inr rfl)
      | failing => cases hstep; exact .close (.inr rfl) (.inr rfl)
      | exhausted => cases hstep
      | abandoned => cases hstep
  | wake disconnected now =>
      cases generator with
      | waiting =>
          by_cases hfinished : worker = .finished
          · subst hfinished
            cases hstep
            exact .takeUp disconnected now rfl rfl
          · cases disconnected with
            | true =>
                have hnext : next = ⟨record, .abandoned, worker⟩ := by
                  cases worker <;> cases hstep <;> trivial
                rw [hnext]
                exact .notice now rfl hfinished
            | false =>
                have hnext : next = ⟨record, .beating, worker⟩ := by
                  cases worker <;> cases hstep <;> trivial
                rw [hnext]
                exact .beat now rfl hfinished
      | _ => cases hstep
  | write now =>
      cases worker with
      | idle => cases hstep
      | finished => cases hstep
      | working left =>
          cases left with
          | nil => cases hstep
          | cons write left => cases hstep; exact .write now rfl
  | finish =>
      cases worker with
      | idle => cases hstep
      | finished => cases hstep
      | working left =>
          cases left with
          | nil => cases hstep; exact .finish rfl
          | cons write left => cases hstep

theorem sound_step {event : WebEvent} (h : Sound call world)
    (hstep : webStep call world event = some next) : Sound call next := by
  cases webMove_of_step hstep with
  | launch hgenerator =>
      simp only [Sound, hgenerator] at h
      simp only [Sound, Pending, h.2]
  | wait hgenerator =>
      simp only [Sound, hgenerator] at h ⊢
      exact h
  | beat now hgenerator hrunning =>
      simp only [Sound, hgenerator] at h ⊢
      exact h
  | notice now hgenerator hrunning =>
      simp only [Sound, hgenerator] at h ⊢
      exact .inr h
  | takeUp disconnected now hgenerator hfinished =>
      obtain ⟨hworker, hends, -⟩ := takeUp_spec world now call.outcome
      rcases hends with hdone | hfailing
      · simp only [Sound, hdone, hworker, hfinished]
      · simp only [Sound, hfailing, hworker, hfinished]
  | launchless hgenerator =>
      simp only [Sound, hgenerator] at h ⊢
      exact .inl h.1
  | leave hgenerator =>
      rcases hgenerator with hgenerator | hgenerator
      · simp only [Sound, hgenerator] at h ⊢
        exact .inr h
      · simp only [Sound, hgenerator] at h ⊢
        exact .inr h
  | close hgenerator hevent =>
      rcases hgenerator with hgenerator | hgenerator
      · simp only [Sound, hgenerator] at h ⊢
        exact h
      · simp only [Sound, hgenerator] at h ⊢
        exact h
  | write now hworker => exact h.work hworker (pending_write now hworker)
  | finish hworker => exact h.work hworker (pending_finish hworker)

theorem offCourse_step {event : WebEvent} (hsound : Sound call world)
    (h : ¬OnCourse call world)
    (hstep : webStep call world event = some next) : ¬OnCourse call next := by
  cases webMove_of_step hstep with
  | launch hgenerator => simp [OnCourse, hgenerator] at h
  | wait hgenerator => simp [OnCourse, hgenerator] at h
  | beat now hgenerator hrunning => simp [OnCourse, hgenerator] at h
  | notice now hgenerator hrunning => simp [OnCourse, hgenerator] at h
  | takeUp disconnected now hgenerator hfinished =>
      simp [OnCourse, hgenerator] at h
  | launchless hgenerator => simp [OnCourse, hgenerator] at h
  | leave hgenerator =>
      rcases hgenerator with hgenerator | hgenerator <;>
        simp [OnCourse, hgenerator] at h
  | close hgenerator hevent =>
      rcases hgenerator with hgenerator | hgenerator <;>
        simpa [OnCourse, hgenerator] using h
  | write now hworker =>
      rwa [onCourse_work hsound hworker Worker.noConfusion]
  | finish hworker =>
      rwa [onCourse_work hsound hworker Worker.noConfusion]

end Steps

theorem course_step {req : RunRequest} {conduct : Conduct}
    {world next : RunWorld} {event : WebEvent}
    (hsound : Sound (launchRun req conduct) world)
    (h : OnCourse (launchRun req conduct) world)
    (hstep : webStep (launchRun req conduct) world event = some next) :
    Stays req conduct world event ↔ OnCourse (launchRun req conduct) next := by
  have hleaves := leaves_earned_iff req conduct
  cases webMove_of_step hstep with
  | launch hgenerator => simp [Stays, OnCourse]
  | wait hgenerator => simp [Stays, OnCourse]
  | beat now hgenerator hrunning => simp [Stays, OnCourse, hrunning]
  | notice now hgenerator hrunning =>
      -- the call goes on, and its own writes are the last
      have hstarted : world.worker ≠ .idle := by
        intro hidle
        simp only [Sound, hgenerator, Pending, hidle] at hsound
      simp [Stays, OnCourse, hrunning, hstarted, hleaves]
  | takeUp disconnected now hgenerator hfinished =>
      obtain ⟨-, hends, hearned⟩ :=
        takeUp_spec world now (launchRun req conduct).outcome
      rcases hends with hdone | hfailing
      · simp [Stays, OnCourse, hfinished, hdone, hearned]
      · simp [Stays, OnCourse, hfinished, hfailing, hearned]
  | launchless hgenerator =>
      simp only [Sound, hgenerator] at hsound
      simp [Stays, OnCourse, hgenerator, hsound.1]
  | leave hgenerator =>
      have hstarted : world.worker ≠ .idle := by
        intro hidle
        rcases hgenerator with hgenerator | hgenerator <;>
          simp only [Sound, hgenerator, Pending, hidle] at hsound
      simp [Stays, OnCourse, hgenerator, hstarted, hleaves]
  | close hgenerator hevent =>
      rcases hevent with hevent | hevent
      · subst hevent
        rcases hgenerator with hgenerator | hgenerator <;>
          simpa [Stays, OnCourse, hgenerator] using h
      · subst hevent
        rcases hgenerator with hgenerator | hgenerator <;>
          simpa [Stays, OnCourse, hgenerator] using h
  | write now hworker =>
      rw [onCourse_work hsound hworker Worker.noConfusion]
      exact iff_of_true trivial h
  | finish hworker =>
      rw [onCourse_work hsound hworker Worker.noConfusion]
      exact iff_of_true trivial h

/-- The world after `prepare_run`. -/
def opened (prepared : RunRequest × Runtime.RunRecord) : RunWorld where
  record := prepared.2

namespace ClosedWitness

def question : RunRequest where
  task := "explain the module"

def answered : Conduct where
  outcome := .returned true "" true

def prepared : RunRequest × Runtime.RunRecord :=
  prepareRun 1 "run-1" question { found := some (false, false) }

def patient : List WebEvent :=
  [.resume, .wake false 2, .resume, .finish, .wake false 3, .resume]

def hasty : List WebEvent := [.resume, .wake true 2, .finish]

def after (events : List WebEvent) : RunWorld :=
  (follow (webStep (launchRun prepared.1 answered)) (opened prepared)
    events).getD (opened prepared)

end ClosedWitness

end Voly.Web
