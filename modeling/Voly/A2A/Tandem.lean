/-
A run without plan gates and a run with shadow gates in tandem: what a log shows
of a role, and how the mirrored plan follows.
-/
import Voly.A2A.StepEnd

namespace Voly.A2A

open Python Interaction StepStatus

/-- The tracker was told the status. -/
def Shown (idx : Int) (status : NodeStatus) (log : List RoleExchange) : Prop :=
  ∃ exchange ∈ log, exchange.op = .graphUpdate idx status

def RoleExchange.Executes (idx : Int) (exchange : RoleExchange) : Prop :=
  ∃ call, exchange.op = .execute call ∧ call.idx = idx

def RoleExchange.Replies (idx : Int) (reply : ChatReply) :
    RoleExchange → Prop
  | ⟨.chat calls, replies⟩ =>
      ∃ i call, calls[i]? = some call ∧ call.idx = idx ∧ replies i = reply
  | _ => False

def Replied (idx : Int) (reply : ChatReply) (log : List RoleExchange) :
    Prop :=
  ∃ exchange ∈ log, exchange.Replies idx reply

def Executed (idx : Int) (log : List RoleExchange) : Prop :=
  ∃ exchange ∈ log, exchange.Executes idx

/-- A response without an error and without content. -/
def EmptyReply : ChatReply → Prop
  | .error _ => False
  | .ok response => response.error = "" ∧ strip response.content = ""

/-- The role was skipped, or it failed and not just by an empty reply. -/
def Fell (idx : Int) (log : List RoleExchange) : Prop :=
  Shown idx .blocked log ∨
    Shown idx .failed log ∧
      (Executed idx log ∨
        ∃ reply, Replied idx reply log ∧ chatFailed reply = true)

def roleAcceptance (config : RunConfig) (cfg : PlanConfig) (a : Assignment) :
    List AcceptanceCheck :=
  defaultAcceptanceForRole a.role (runMode config a).1 cfg

/-- No role starts after a dependency fell, and only roles without checks reply
empty. -/
structure Undisturbed (config : RunConfig) (cfg : PlanConfig)
    (assignments : List Assignment) (log : List RoleExchange) : Prop where
  started : ∀ a ∈ assignments, Shown a.idx .running log →
    ∀ d ∈ a.dependsOn, ¬Fell d log
  nonempty : ∀ a ∈ assignments, ∀ reply, Replied a.idx reply log →
    EmptyReply reply → roleAcceptance config cfg a = []

section Log

variable {log log' : List RoleExchange} {idx : Int}

theorem Shown.mono {status : NodeStatus} (h : Shown idx status log)
    (hsub : log ⊆ log') : Shown idx status log' := by
  obtain ⟨exchange, hmem, hop⟩ := h
  exact ⟨exchange, hsub hmem, hop⟩

theorem Replied.mono {reply : ChatReply} (h : Replied idx reply log)
    (hsub : log ⊆ log') : Replied idx reply log' := by
  obtain ⟨exchange, hmem, hreply⟩ := h
  exact ⟨exchange, hsub hmem, hreply⟩

theorem Executed.mono (h : Executed idx log) (hsub : log ⊆ log') :
    Executed idx log' := by
  obtain ⟨exchange, hmem, hcall⟩ := h
  exact ⟨exchange, hsub hmem, hcall⟩

theorem Fell.mono (h : Fell idx log) (hsub : log ⊆ log') : Fell idx log' := by
  rcases h with hblocked | ⟨hfailed, hexec | ⟨reply, hreply, hbad⟩⟩
  · exact Or.inl (hblocked.mono hsub)
  · exact Or.inr ⟨hfailed.mono hsub, Or.inl (hexec.mono hsub)⟩
  · exact Or.inr ⟨hfailed.mono hsub, Or.inr ⟨reply, hreply.mono hsub, hbad⟩⟩

theorem Undisturbed.mono {config : RunConfig} {cfg : PlanConfig}
    {assignments : List Assignment}
    (h : Undisturbed config cfg assignments log') (hsub : log ⊆ log') :
    Undisturbed config cfg assignments log where
  started a ha hshown d hd hfell :=
    h.started a ha (hshown.mono hsub) d hd (hfell.mono hsub)
  nonempty a ha reply hreply hempty :=
    h.nonempty a ha reply (hreply.mono hsub) hempty

theorem answer_subset (env : Surround) (log : List RoleExchange)
    (op : RoleOp) : log ⊆ (env.answer log op).2 := by
  unfold Surround.answer
  split
  · exact List.Subset.refl log
  · exact List.subset_append_left log _

theorem eval_subset {A : Type} (env : Surround)
    (x : Prog RoleOp RoleReply A) (log : List RoleExchange) :
    log ⊆ (x.eval env.answer log).2 := by
  induction x generalizing log with
  | done a => exact List.Subset.refl log
  | ask op next ih =>
      exact List.Subset.trans (answer_subset env log op) (ih _ _)

end Log

def Assignment.stepId (a : Assignment) : String :=
  assignmentStepId a.idx a.role

/-- A stored plan with one step for each assignment. -/
structure Mirrored (config : RunConfig) (cfg : PlanConfig)
    (roles : List Assignment) (base : Plan) : Prop where
  nodup : base.ids.Nodup
  storable : storePath base.planId = .ok ()
  distinct : ∀ a ∈ roles, ∀ b ∈ roles, a.stepId = b.stepId ↔ a.idx = b.idx
  built : ∀ a ∈ roles, ∃ step, base.getStep? a.stepId = some step ∧
    step.status = pending ∧ step.verifyLog = [] ∧
    step.acceptance = roleAcceptance config cfg a ∧
    ∀ dep ∈ step.dependsOn, ∃ p ∈ roles, p.idx ∈ a.dependsOn ∧
      dep = p.stepId

/-- How far a role's step is, by whether it was placed and is in flight. -/
structure Stage (placed flight : List Int) (log : List RoleExchange)
    (idx : Int) (step : PlanStep) : Prop where
  fresh : idx ∉ placed → step.status = pending ∧ step.verifyLog = []
  going : idx ∈ flight → step.status = running ∧ step.verifyLog = []
  settled : idx ∈ placed → idx ∉ flight →
    step.status = verified ∨ Fell idx log

/-- The plan object follows the roles. -/
structure Tracks (roles : List Assignment) (base : Plan)
    (placed flight : List Int) (log : List RoleExchange) (plan : Plan) :
    Prop where
  planId : plan.planId = base.planId
  ids : plan.ids = base.ids
  step : ∀ a ∈ roles, ∃ built step, base.getStep? a.stepId = some built ∧
    plan.getStep? a.stepId = some step ∧ SameShape built step ∧
    Stage placed flight log a.idx step

namespace Tracks

variable {config : RunConfig} {cfg : PlanConfig} {roles : List Assignment}
  {base plan plan' : Plan} {placed flight : List Int}
  {log log' : List RoleExchange} {a : Assignment}

theorem mono (h : Tracks roles base placed flight log plan)
    (hsub : log ⊆ log') : Tracks roles base placed flight log' plan where
  planId := h.planId
  ids := h.ids
  step b hb := by
    obtain ⟨built, step, hbase, hstep, hshape, hstage⟩ := h.step b hb
    refine ⟨built, step, hbase, hstep, hshape, hstage.fresh, hstage.going, ?_⟩
    intro hplaced hflight
    exact (hstage.settled hplaced hflight).imp_right fun hfell =>
      hfell.mono hsub

theorem move (hbase : Mirrored config cfg roles base)
    (h : Tracks roles base placed flight log plan) (ha : a ∈ roles)
    {step step' : PlanStep} (hget : plan.getStep? a.stepId = some step)
    (hmoved : StepMoved a.stepId plan plan' step')
    (hshape : SameShape step step') (hsub : log ⊆ log')
    (placed' flight' : List Int)
    (hplaced : ∀ i, i ≠ a.idx → (i ∈ placed' ↔ i ∈ placed))
    (hflight : ∀ i, i ≠ a.idx → (i ∈ flight' ↔ i ∈ flight))
    (hstage : Stage placed' flight' log' a.idx step') :
    Tracks roles base placed' flight' log' plan' where
  planId := hmoved.planId.trans h.planId
  ids := hmoved.ids.trans h.ids
  step b hb := by
    obtain ⟨built, old, hbuilt, hold, hsame, hbefore⟩ := h.step b hb
    by_cases hid : b.stepId = a.stepId
    · have hidx : b.idx = a.idx := (hbase.distinct b hb a ha).mp hid
      have hstep : old = step := by
        rw [hid, hget] at hold
        exact (Option.some.inj hold).symm
      subst hstep
      refine ⟨built, step', hbuilt, ?_, hsame.trans hshape, ?_⟩
      · rw [hid]
        exact hmoved.found
      · rw [hidx]
        exact hstage
    · have hidx : b.idx ≠ a.idx :=
        fun heq => hid ((hbase.distinct b hb a ha).mpr heq)
      refine ⟨built, old, hbuilt, ?_, hsame, ?_, ?_, ?_⟩
      · rw [hmoved.only.same b.stepId hid]
        exact hold
      · intro hnot
        exact hbefore.fresh fun hin => hnot ((hplaced b.idx hidx).mpr hin)
      · intro hin
        exact hbefore.going ((hflight b.idx hidx).mp hin)
      · intro hin hout
        have hsettled := hbefore.settled ((hplaced b.idx hidx).mp hin)
          fun hin => hout ((hflight b.idx hidx).mpr hin)
        exact hsettled.imp_right fun hfell => hfell.mono hsub

end Tracks

/-- The run without gates and its mirror while some roles are in flight. -/
structure Mirrors (roles : List Assignment) (base : Plan)
    (placed flight : List Int) (s t : LocalRun) (log : List RoleExchange) :
    Prop where
  done : t.done.map Assignment.core = s.done.map Assignment.core
  assignments : s.assignments = roles ∧ t.assignments = roles
  modes : t.roleModes = s.roleModes
  notes : t.degradedNotes = s.degradedNotes
  off : s.plan = none ∧ s.gatesOn = false
  placed_iff : ∀ i, (∃ p ∈ s.done, p.idx = i) ↔ i ∈ placed ∧ i ∉ flight
  nodup : flight.Nodup
  flying : flight ⊆ placed
  gates : t.plan = none ∧ t.gatesOn = false ∨
    t.gatesOn = true ∧ t.planMode = "shadow" ∧ ∃ plan, t.plan = some plan ∧
      Tracks roles base placed flight log plan

/-- The tracker does not show the role as blocked for its plan status. -/
def Assignment.Clear (a : Assignment) : Prop :=
  a.planStatus ∉ ["blocked", "skipped"]

section Record

variable {s t : LocalRun} {a b : Assignment}

theorem setDone_core (a : Assignment) (l : List Assignment) :
    (setDone a l).map Assignment.core =
      setDone a.core (l.map Assignment.core) := by
  induction l with
  | nil => rfl
  | cons p rest ih =>
      simp only [setDone, List.map_cons]
      by_cases hp : p.idx = a.idx
      · rw [if_pos hp, if_pos (by exact hp)]
        rfl
      · rw [if_neg hp, if_neg (by exact hp), List.map_cons, ih]

theorem record_core (hdone : t.done.map Assignment.core =
      s.done.map Assignment.core) (hab : b.core = a.core) :
    (t.record b).done.map Assignment.core =
      (s.record a).done.map Assignment.core := by
  simp only [LocalRun.record]
  rw [setDone_core, setDone_core, hdone, hab]

theorem mem_setDone (a : Assignment) (l : List Assignment) (i : Int) :
    (∃ p ∈ setDone a l, p.idx = i) ↔ i = a.idx ∨ ∃ p ∈ l, p.idx = i := by
  induction l with
  | nil => simp [setDone, eq_comm]
  | cons q rest ih =>
      simp only [setDone]
      by_cases hq : q.idx = a.idx
      · rw [if_pos hq]
        simp only [List.mem_cons, exists_eq_or_imp, hq]
        rw [eq_comm]
        tauto
      · rw [if_neg hq]
        simp only [List.mem_cons, exists_eq_or_imp]
        rw [ih]
        tauto

theorem record_length (hdone : t.done.map Assignment.core =
      s.done.map Assignment.core) (hab : b.core = a.core) :
    (t.record b).done.length = (s.record a).done.length := by
  rw [← List.length_map Assignment.core, record_core hdone hab,
    List.length_map]

theorem finishedStatus_core (hab : b.core = a.core) (ha : a.Clear)
    (hb : b.Clear) : finishedStatus b = finishedStatus a := by
  have hok : b.ok = a.ok := of_core hab Assignment.ok fun _ => rfl
  unfold finishedStatus
  rw [if_neg ha, if_neg hb, hok]

theorem finishedStatus_failed (ha : a.Clear) (hok : a.ok = false) :
    finishedStatus a = .failed := by
  unfold finishedStatus
  rw [if_neg (by simp [hok]), if_neg ha]

end Record

section Mirrors

variable {config : RunConfig} {cfg : PlanConfig} {roles : List Assignment}
  {base : Plan} {env : Surround} {placed flight : List Int}
  {s t : LocalRun} {log log' : List RoleExchange} {a b : Assignment}

theorem Mirrors.mono (h : Mirrors roles base placed flight s t log)
    (hsub : log ⊆ log') : Mirrors roles base placed flight s t log' :=
  { h with
    gates := h.gates.imp_right fun ⟨hon, hmode, plan, hplan, htracks⟩ =>
      ⟨hon, hmode, plan, hplan, htracks.mono hsub⟩ }

/-- What the tracker and the evidence sink are told at the end of a role. -/
def closing (run : LocalRun) (a : Assignment) : List RoleExchange :=
  [⟨.graphUpdate a.idx (finishedStatus a), ()⟩,
    ⟨.heartbeat a.role run.done.length, ()⟩]

theorem eval_finish (env : Surround) (a : Assignment) (s : LocalRun)
    (log : List RoleExchange) :
    Script.eval env.answer (finish a) s log =
      ((.ok (), s.record a), log ++ closing (s.record a) a) := by
  have happend : log ++ closing (s.record a) a =
      (log ++ [⟨.graphUpdate a.idx (finishedStatus a), ()⟩]) ++
        [⟨.heartbeat a.role (s.record a).done.length, ()⟩] := by
    rw [List.append_assoc]
    rfl
  rw [happend]
  rfl

theorem closing_shows (log : List RoleExchange) (run : LocalRun)
    (a : Assignment) :
    Shown a.idx (finishedStatus a) (log ++ closing run a) :=
  ⟨_, List.mem_append_right _ List.mem_cons_self, rfl⟩

theorem closing_core (hdone : t.done.map Assignment.core =
      s.done.map Assignment.core) (hab : b.core = a.core)
    (hstatus : finishedStatus b = finishedStatus a) :
    closing (t.record b) b = closing (s.record a) a := by
  have hidx : b.idx = a.idx := of_core hab Assignment.idx fun _ => rfl
  have hrole : b.role = a.role := of_core hab Assignment.role fun _ => rfl
  unfold closing
  rw [hidx, hrole, hstatus, record_length hdone hab]

theorem Mirrors.record (h : Mirrors roles base placed flight s t log)
    (hab : b.core = a.core) {placed' flight' : List Int}
    (hplaced : ∀ i, i ∈ placed' ∧ i ∉ flight' ↔
      i = a.idx ∨ i ∈ placed ∧ i ∉ flight)
    (hnodup : flight'.Nodup) (hflying : flight' ⊆ placed')
    (t' : LocalRun) (ht : t' = { t with plan := t'.plan })
    (hgates : t.plan = none ∧ t.gatesOn = false ∧ t'.plan = none ∨
      t.gatesOn = true ∧ t.planMode = "shadow" ∧ ∃ plan,
        t'.plan = some plan ∧ Tracks roles base placed' flight' log' plan) :
    Mirrors roles base placed' flight' (s.record a) (t'.record b) log' := by
  rw [ht]
  refine ⟨record_core h.done hab, h.assignments, h.modes, h.notes, h.off, ?_,
    hnodup, hflying, ?_⟩
  · intro i
    rw [hplaced, ← h.placed_iff i]
    exact mem_setDone a s.done i
  · rcases hgates with ⟨_, hoff, hnone⟩ | ⟨hon, hmode, plan, hplan, htracks⟩
    · exact Or.inl ⟨hnone, hoff⟩
    · exact Or.inr ⟨hon, hmode, plan, hplan, htracks⟩

/-- What a finished call lets the step of a role become. -/
inductive Verdict (config : RunConfig) (cfg : PlanConfig)
    (role a : Assignment) (log : List RoleExchange) : Bool → Prop where
  | through (h : a.ok = true ∨ roleAcceptance config cfg role = []) :
      Verdict config cfg role a log true
  | fell (hok : a.ok = false)
      (h : Executed a.idx log ∨
        ∃ reply, Replied a.idx reply log ∧ chatFailed reply = true) :
      Verdict config cfg role a log false

theorem verdict_clear (execOk : Bool) :
    (if execOk then verified else failed).text ∉ ["blocked", "skipped"] := by
  revert execOk
  decide

theorem finishStepPlan_shadow (henv : env.Calm)
    (hbase : Mirrored config cfg roles base) {role : Assignment}
    (hrole : role ∈ roles) (hid : role.stepId = b.stepId)
    (hab : b.core = a.core) {plan : Plan} (hplan : t.plan = some plan)
    (hmode : t.planMode = "shadow")
    (htracks : Tracks roles base placed (role.idx :: flight) log plan)
    {execOk : Bool} (hverdict : Verdict config cfg role a log execOk)
    (gitBefore : Dict String) :
    ∃ step step' plan', plan.getStep? role.stepId = some step ∧
      StepMoved role.stepId plan plan' step' ∧ SameShape step step' ∧
      step'.status = (if execOk then verified else failed) ∧
      Script.eval env.answer (finishStepPlan config b execOk gitBefore) t log =
        ((.ok (syncAssignmentPlanFields b step'),
          { t with plan := some plan' }), log) := by
  obtain ⟨built, step, hbuilt, hget, hshape, hstage⟩ := htracks.step role hrole
  obtain ⟨hrunning, hlog⟩ := hstage.going List.mem_cons_self
  obtain ⟨step₀, hstep₀, _, _, hacceptance, _⟩ := hbase.built role hrole
  have hchecks : step.acceptance = roleAcceptance config cfg role := by
    rw [hbuilt] at hstep₀
    rw [hshape.acceptance, Option.some.inj hstep₀, hacceptance]
  have hpath : storePath plan.planId = .ok () := by
    rw [htracks.planId]
    exact hbase.storable
  have hget' : plan.getStep? (assignmentStepId b.idx b.role) = some step := by
    rw [show assignmentStepId b.idx b.role = role.stepId from hid.symm]
    exact hget
  have hstart : Script.eval env.answer
      (finishStepPlan config b execOk gitBefore) t log =
        Script.eval env.answer (onPlan plan
          (finishStep config (t.planConfig.getD {}) "shadow" b (t.priors b)
            execOk gitBefore)) t log := by
    unfold finishStepPlan
    rw [Script.eval_bind_ok env.answer (Script.eval_read env.answer t log)]
    rw [hplan, hmode]
  have hfinish : Script.Gives (stepProtocol True False) True
      (finishStep config (t.planConfig.getD {}) "shadow" b (t.priors b)
        execOk gitBefore)
      (fun out plan' _ => Finishes b plan plan' step
        (if execOk then verified else failed) out) plan () := by
    cases hverdict with
    | through hok =>
        apply finishes_through hget' hrunning hpath hlog
        rw [hchecks, of_core hab Assignment.ok fun _ => rfl]
        exact hok
    | fell _ _ => exact finishes_failed hget' hrunning hpath
  obtain ⟨out, plan', heval, step', rfl, hmoved, hsame, hstatus⟩ :=
    eval_onPlan henv hfinish t log
  rw [show assignmentStepId b.idx b.role = role.stepId from hid.symm]
    at hmoved
  exact ⟨step, step', plan', hget, hmoved, hsame, hstatus,
    hstart.trans heval⟩

theorem eval_finishStepPlan_off (hoff : s.plan = none) (execOk : Bool)
    (gitBefore : Dict String) :
    Script.eval env.answer (finishStepPlan config a execOk gitBefore) s log =
      ((.ok a, s), log) := by
  unfold finishStepPlan
  rw [Script.eval_bind_ok env.answer (Script.eval_read env.answer s log), hoff]
  rfl

theorem eval_conclude {execOk : Bool} {gitBefore : Dict String}
    (h : Script.eval env.answer (finishStepPlan config a execOk gitBefore) s
      log = ((.ok b, t), log)) :
    Script.eval env.answer (conclude config a execOk gitBefore) s log =
      ((.ok (), t.record b),
        log ++ closing (t.record b) b ++ [⟨.roleEvidence b.idx, ()⟩]) := by
  unfold conclude
  rw [Script.eval_bind_ok env.answer h,
    Script.eval_bind_ok env.answer (eval_finish env b t log)]
  rfl

theorem conclude_mirrors (henv : env.Calm)
    (hbase : Mirrored config cfg roles base) {role : Assignment}
    (hrole : role ∈ roles) (hidx : role.idx = a.idx)
    (hname : role.role = a.role) (hab : b.core = a.core) (ha : a.Clear)
    (hb : b.Clear) (execOk : Bool) {execOk' : Bool} (gitBefore : Dict String)
    (h : Mirrors roles base placed (role.idx :: flight) s t log)
    (hverdict : t.gatesOn = true →
      Verdict config cfg role a log execOk') :
    ∃ t' log', Script.eval env.answer (conclude config a execOk gitBefore) s
        log = ((.ok (), s.record a), log') ∧
      Script.eval env.answer (conclude config b execOk' gitBefore) t log =
        ((.ok (), t'), log') ∧
      Mirrors roles base placed flight (s.record a) t' log' := by
  have hbidx : b.idx = a.idx := of_core hab Assignment.idx fun _ => rfl
  have hid : role.stepId = b.stepId := by
    unfold Assignment.stepId
    rw [hidx, hname, hbidx, of_core hab Assignment.role fun _ => rfl]
  have hfresh : role.idx ∉ flight := (List.nodup_cons.mp h.nodup).1
  have hin : role.idx ∈ placed := h.flying List.mem_cons_self
  have hplaced : ∀ i, i ∈ placed ∧ i ∉ flight ↔
      i = a.idx ∨ i ∈ placed ∧ i ∉ role.idx :: flight := by
    intro i
    rw [← hidx]
    by_cases hi : i = role.idx
    · subst hi
      simp [hin, hfresh]
    · simp [hi]
  have hsub : log ⊆ log ++ closing (s.record a) a ++
      [⟨.roleEvidence a.idx, ()⟩] := by
    rw [List.append_assoc]
    exact List.subset_append_left _ _
  have hnodup : flight.Nodup := (List.nodup_cons.mp h.nodup).2
  have hflying : flight ⊆ placed :=
    fun i hi => h.flying (List.mem_cons_of_mem _ hi)
  rcases h.gates with ⟨hnone, hgates⟩ | ⟨hon, hmode, plan, hplan, htracks⟩
  · -- the gates are off on both sides
    have hstatus := finishedStatus_core hab ha hb
    refine ⟨_, _, eval_conclude (eval_finishStepPlan_off h.off.1 ..), ?_,
      h.record hab hplaced hnodup hflying t rfl
        (Or.inl ⟨hnone, hgates, hnone⟩)⟩
    rw [eval_conclude (eval_finishStepPlan_off hnone ..),
      closing_core h.done hab hstatus, hbidx]
  · obtain ⟨step, step', plan', hget, hmoved, hsame, hstep, heval⟩ :=
      finishStepPlan_shadow henv hbase hrole hid hab hplan hmode htracks
        (hverdict hon) gitBefore
    have hclear : (syncAssignmentPlanFields b step').Clear := by
      unfold Assignment.Clear syncAssignmentPlanFields
      rw [hstep]
      exact verdict_clear execOk'
    have hcore : (syncAssignmentPlanFields b step').core = a.core := hab
    have hstatus := finishedStatus_core hcore ha hclear
    have hsettled : step'.status = verified ∨ Fell role.idx
        (log ++ closing (s.record a) a ++ [⟨.roleEvidence a.idx, ()⟩]) := by
      cases hverdict hon with
      | through _ => exact Or.inl hstep
      | fell hok hcall =>
          have hshown := closing_shows log (s.record a) a
          rw [finishedStatus_failed ha hok] at hshown
          rw [hidx]
          refine Or.inr (Or.inr ⟨hshown.mono (List.subset_append_left _ _), ?_⟩)
          rcases hcall with hexec | ⟨reply, hreply, hbad⟩
          · exact Or.inl (hexec.mono hsub)
          · exact Or.inr ⟨reply, hreply.mono hsub, hbad⟩
    have htracks' := htracks.move hbase hrole hget hmoved hsame hsub
      placed flight (fun _ _ => Iff.rfl)
      (fun i hi => by simp [hi])
      ⟨fun hout => absurd hin hout, fun hfly => absurd hfly hfresh,
        fun _ _ => hsettled⟩
    refine ⟨_, _, eval_conclude (eval_finishStepPlan_off h.off.1 ..), ?_,
      h.record hcore hplaced hnodup hflying { t with plan := some plan' } rfl
        (Or.inr ⟨hon, hmode, plan', rfl, htracks'⟩)⟩
    have hclosing : closing
        (LocalRun.record (syncAssignmentPlanFields b step')
          { t with plan := some plan' }) (syncAssignmentPlanFields b step') =
        closing (s.record a) a := closing_core h.done hcore hstatus
    rw [eval_conclude heval, hclosing]
    rw [show (syncAssignmentPlanFields b step').idx = a.idx from hbidx]

end Mirrors

end Voly.A2A
