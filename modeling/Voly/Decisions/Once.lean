/-
Any number of calls on one business decision: the stages it goes through, and
when its action runs at most once.
-/
import Voly.Decisions.Calls

namespace Voly

open Python Interaction StepStatus DecisionService

/-- The plan files, and what every call has asked so far, latest first. -/
structure ServiceWorld (I : Type) where
  files : String → Option Plan
  log : List (I × DecisionOp) := []

variable {I : Type} [DecidableEq I]

/-- A reliable disk for plans and records; other replies are the proposed ones.
-/
def serveDecisions (criteria : CriteriaCompiler) (who : I) :
    Serve DecisionOp DecisionReply (ServiceWorld I) :=
  fun world op proposed =>
    match op, proposed with
    | .plan op, proposed =>
        let out := diskAnswer criteria world.files op proposed
        (out.1, ⟨out.2, (who, .plan op) :: world.log⟩)
    | .learn plan, _ => (.ok (), ⟨world.files, (who, .learn plan) :: world.log⟩)
    | .emitTaskEvent plan, _ =>
        (.ok (), ⟨world.files, (who, .emitTaskEvent plan) :: world.log⟩)
    | .saveEvidence plan result, _ =>
        (.ok (), ⟨world.files, (who, .saveEvidence plan result) :: world.log⟩)
    | op, proposed => (proposed, ⟨world.files, (who, op) :: world.log⟩)

def DecisionOp.isSave : DecisionOp → Bool
  | .plan (.save _) => true
  | _ => false

def DecisionOp.isLoad : DecisionOp → Bool
  | .plan (.load _) => true
  | _ => false

def DecisionOp.isRun : DecisionOp → Bool
  | .runExecutor _ => true
  | _ => false

/-- Who has run the executor, latest first. -/
def executions (log : List (I × DecisionOp)) : List I :=
  (log.filter fun entry => entry.2.isRun).map Prod.fst

def HasSaved (who : I) (log : List (I × DecisionOp)) : Prop :=
  ∃ entry ∈ log, entry.1 = who ∧ entry.2.isSave = true

/-- No other call has saved since the call last loaded the plan. -/
def UpToDate (who : I) : List (I × DecisionOp) → Prop
  | [] => True
  | entry :: rest =>
      if entry.1 = who ∧ entry.2.isLoad = true then True
      else (entry.2.isSave = true → entry.1 = who) ∧ UpToDate who rest

def FirstSaveUpToDate (world : ServiceWorld I) (who : I) (op : DecisionOp) :
    Prop :=
  op.isSave = true → ¬HasSaved who world.log → UpToDate who world.log

instance (who : I) (log : List (I × DecisionOp)) :
    Decidable (HasSaved who log) := by
  unfold HasSaved
  infer_instance

def decideUpToDate (who : I) :
    (log : List (I × DecisionOp)) → Decidable (UpToDate who log)
  | [] => isTrue trivial
  | entry :: rest =>
      have := decideUpToDate who rest
      inferInstanceAs (Decidable
        (if entry.1 = who ∧ entry.2.isLoad = true then True
        else (entry.2.isSave = true → entry.1 = who) ∧ UpToDate who rest))

instance (who : I) (log : List (I × DecisionOp)) :
    Decidable (UpToDate who log) := decideUpToDate who log

instance (world : ServiceWorld I) (who : I) (op : DecisionOp) :
    Decidable (FirstSaveUpToDate world who op) := by
  unfold FirstSaveUpToDate
  infer_instance

/-- What became of a business decision: an abstract account of it. -/
inductive Stage (I : Type) where
  | proposed
  | rejected
  | approved
  | claimed (who : I)
  | ran (who : I)
  | ended (who : I) (success : Bool)

namespace Stage

section Account

variable {I : Type}

def decision : Stage I → String
  | proposed => "pending"
  | rejected => "rejected"
  | _ => "approved"

def execution : Stage I → String
  | proposed | rejected | approved => "pending"
  | claimed _ | ran _ => "running"
  | ended _ success => if success then "completed" else "failed"

/-- Who has run the action. -/
def runs : Stage I → List I
  | ran who | ended who _ => [who]
  | _ => []

theorem runs_length (stage : Stage I) : stage.runs.length ≤ 1 := by
  cases stage <;> simp [runs]

theorem decision_of_runs {stage : Stage I} (h : stage.runs ≠ []) :
    stage.decision = "approved" := by
  cases stage with
  | ran | ended | approved | claimed => rfl
  | proposed | rejected => exact absurd rfl h

theorem eq_proposed {stage : Stage I} (h : stage.decision = "pending") :
    stage = proposed := by
  cases stage with
  | proposed => rfl
  | rejected | approved | claimed | ran | ended =>
      exact absurd h (by simp [decision])

theorem eq_approved {stage : Stage I} (hdecision : stage.decision = "approved")
    (hexecution : stage.execution = "pending") : stage = approved := by
  cases stage with
  | approved => rfl
  | proposed | rejected => exact absurd hdecision (by simp [decision])
  | claimed | ran => exact absurd hexecution (by simp [execution])
  | ended who success =>
      cases success <;> exact absurd hexecution (by simp [execution])

end Account

/-- The saves of a call of `execute`, and whether it has run the action. -/
def turn (stage : Stage I) (i : I) : Nat × Bool :=
  match stage with
  | claimed who => if i = who then (1, false) else (0, false)
  | ran who => if i = who then (1, true) else (0, false)
  | ended who _ => if i = who then (2, true) else (0, false)
  | _ => (0, false)

theorem eq_ran {stage : Stage I} {i : I} (h : stage.turn i = (1, true)) :
    stage = ran i := by
  cases stage with
  | ran who =>
      unfold turn at h
      dsimp only at h
      split at h
      case isTrue heq => rw [heq]
      case isFalse => cases h
  | claimed who | ended who =>
      unfold turn at h
      dsimp only at h
      split at h <;> cases h
  | proposed | rejected | approved => cases h

theorem eq_claimed {stage : Stage I} {i : I} (h : stage.turn i = (1, false)) :
    stage = claimed i := by
  cases stage with
  | claimed who =>
      unfold turn at h
      dsimp only at h
      split at h
      case isTrue heq => rw [heq]
      case isFalse => cases h
  | ran who | ended who =>
      unfold turn at h
      dsimp only at h
      split at h <;> cases h
  | proposed | rejected | approved => cases h

end Stage

/-- A stage explains what the store and the calls look like. -/
structure Explains (planId : String) (calls : I → ServiceCall)
    (stage : Stage I) (world : ServiceWorld I) (views : I → ServiceView) :
    Prop where
  keyed : Keyed world.files
  file : ∃ stored, world.files planId = some stored ∧
    stored.decision = stage.decision ∧ stored.execution = stage.execution
  held : ∀ i held, (views i).held = some held → held.planId = planId ∧
    (UpToDate i world.log →
      held.decision = stage.decision ∧ held.execution = stage.execution)
  saved : ∀ i, HasSaved i world.log ↔ (views i).saves ≠ 0
  decider : ∀ i decision comment, calls i = .decide decision comment →
    (views i).saves = 0 ∨
      (views i).saves = 1 ∧ stage.decision = desiredDecision decision
  executor : ∀ i given, calls i = .execute given →
    ((views i).saves, (views i).ran) = stage.turn i
  approver : stage.decision = "approved" → ∃ i comment,
    calls i = .decide "approve" comment ∧ (views i).saves = 1
  runs : executions world.log = stage.runs

section Serve

variable {planId : String} {calls : I → ServiceCall} {stage stage' : Stage I}
  {world : ServiceWorld I} {views : I → ServiceView} {i : I}

theorem upToDate_other {j : I} {op : DecisionOp} (hj : j ≠ i)
    {log : List (I × DecisionOp)} :
    UpToDate j ((i, op) :: log) ↔ op.isSave = false ∧ UpToDate j log := by
  rw [UpToDate, if_neg (fun h => hj h.1.symm)]
  constructor
  · rintro ⟨hsave, hrest⟩
    refine ⟨?_, hrest⟩
    cases hop : op.isSave with
    | false => rfl
    | true => exact absurd (hsave hop).symm hj
  · rintro ⟨hsave, hrest⟩
    exact ⟨fun hop => absurd (hsave.symm.trans hop) (by decide), hrest⟩

omit [DecidableEq I] in
theorem hasSaved_cons {j : I} {op : DecisionOp} {log : List (I × DecisionOp)} :
    HasSaved j ((i, op) :: log) ↔
      i = j ∧ op.isSave = true ∨ HasSaved j log := by
  unfold HasSaved
  simp only [List.mem_cons, exists_eq_or_imp]

theorem Explains.quiet (h : Explains planId calls stage world views)
    {op : DecisionOp} (hsave : op.isSave = false) (hrun : op.isRun = false)
    (view' : ServiceView) (hsaves : view'.saves = (views i).saves)
    (hran : view'.ran = (views i).ran)
    (hheld : ∀ held, view'.held = some held → held.planId = planId ∧
      (UpToDate i ((i, op) :: world.log) →
        held.decision = stage.decision ∧ held.execution = stage.execution)) :
    Explains planId calls stage ⟨world.files, (i, op) :: world.log⟩
      (Function.update views i view') := by
  have hview : ∀ j, (Function.update views i view' j).saves =
      (views j).saves ∧
      (Function.update views i view' j).ran = (views j).ran := by
    intro j
    by_cases hj : j = i
    · rw [hj, Function.update_self]
      exact ⟨hsaves, hran⟩
    · rw [Function.update_of_ne hj]
      exact ⟨rfl, rfl⟩
  constructor
  · exact h.keyed
  · exact h.file
  · intro j held
    by_cases hj : j = i
    · rw [hj, Function.update_self]
      exact hheld held
    · rw [Function.update_of_ne hj, upToDate_other hj]
      intro hsome
      obtain ⟨hplanId, hsame⟩ := h.held j held hsome
      exact ⟨hplanId, fun hdate => hsame hdate.2⟩
  · intro j
    rw [hasSaved_cons, hsave, (hview j).1, ← h.saved j]
    simp
  · intro j decision comment hcall
    rw [(hview j).1]
    exact h.decider j decision comment hcall
  · intro j given hcall
    rw [(hview j).1, (hview j).2]
    exact h.executor j given hcall
  · intro happroved
    obtain ⟨j, comment, hcall, hone⟩ := h.approver happroved
    exact ⟨j, comment, hcall, by rw [(hview j).1, hone]⟩
  · rw [executions, List.filter_cons_of_neg (by simp [hrun])]
    exact h.runs

theorem Explains.save (h : Explains planId calls stage world views)
    {plan : Plan} (hplanId : plan.planId = planId)
    (hdecision : plan.decision = stage'.decision)
    (hexecution : plan.execution = stage'.execution)
    (hruns : stage'.runs = stage.runs)
    (hdecider : ∀ j decision comment, calls j = .decide decision comment →
      if j = i then (views i).saves = 0 ∧
        stage'.decision = desiredDecision decision
      else (views j).saves = 0 ∨
        (views j).saves = 1 ∧ stage'.decision = desiredDecision decision)
    (hexecutor : ∀ j given, calls j = .execute given →
      ((if j = i then (views i).saves + 1 else (views j).saves),
        (views j).ran) = stage'.turn j)
    (happrover : stage'.decision = "approved" → ∃ j comment,
      calls j = .decide "approve" comment ∧ (j = i ∨ (views j).saves = 1)) :
    Explains planId calls stage'
      ⟨Function.update world.files plan.planId (some plan),
        (i, .plan (.save plan)) :: world.log⟩
      (Function.update views i
        ⟨some plan, (views i).saves + 1, (views i).ran⟩) := by
  constructor
  · exact h.keyed.save plan
  · refine ⟨plan, ?_, hdecision, hexecution⟩
    change Function.update world.files plan.planId (some plan) planId = _
    rw [hplanId, Function.update_self]
  · intro j held
    by_cases hj : j = i
    · rw [hj, Function.update_self]
      rintro ⟨⟩
      exact ⟨hplanId, fun _ => ⟨hdecision, hexecution⟩⟩
    · rw [Function.update_of_ne hj, upToDate_other hj]
      intro hsome
      exact ⟨(h.held j held hsome).1, fun hdate => nomatch hdate.1⟩
  · intro j
    rw [hasSaved_cons]
    by_cases hj : j = i
    · rw [hj, Function.update_self]
      exact ⟨fun _ => Nat.succ_ne_zero _, fun _ => Or.inl ⟨rfl, rfl⟩⟩
    · rw [Function.update_of_ne hj, ← h.saved j]
      exact ⟨fun hor => hor.resolve_left fun hi => hj hi.1.symm, Or.inr⟩
  · intro j decision comment hcall
    have hj := hdecider j decision comment hcall
    split at hj
    case isTrue heq =>
      rw [heq, Function.update_self, hj.1]
      exact Or.inr ⟨rfl, hj.2⟩
    case isFalse hne =>
      rw [Function.update_of_ne hne]
      exact hj
  · intro j given hcall
    rw [← hexecutor j given hcall]
    by_cases hj : j = i
    · rw [hj, Function.update_self, if_pos rfl]
    · rw [Function.update_of_ne hj, if_neg hj]
  · intro happroved
    obtain ⟨j, comment, hcall, hj⟩ := happrover happroved
    refine ⟨j, comment, hcall, ?_⟩
    by_cases heq : j = i
    · have hzero := hdecider j "approve" comment hcall
      rw [if_pos heq] at hzero
      rw [heq, Function.update_self, hzero.1]
    · rw [Function.update_of_ne heq]
      exact hj.resolve_left heq
  · rw [hruns, ← h.runs, executions, List.filter_cons_of_neg (by
      simp [DecisionOp.isRun])]
    rfl

theorem Explains.decided (h : Explains planId calls .proposed world views)
    {plan : Plan} {decision comment : String}
    (hcall : calls i = .decide decision comment)
    (hplanId : plan.planId = planId) (hfirst : (views i).saves = 0)
    (hdecision : plan.decision = desiredDecision decision)
    (hexecution : plan.execution = "pending") :
    ∃ stage', Explains planId calls stage'
      ⟨Function.update world.files plan.planId (some plan),
        (i, .plan (.save plan)) :: world.log⟩
      (Function.update views i
        ⟨some plan, (views i).saves + 1, (views i).ran⟩) := by
  have hstage : ∃ stage' : Stage I,
      stage'.decision = desiredDecision decision ∧
      stage'.execution = "pending" ∧ stage'.runs = [] ∧
      ∀ j, stage'.turn j = (0, false) := by
    by_cases happrove : decision = "approve"
    · exact ⟨.approved, by rw [happrove]; rfl, rfl, rfl, fun _ => rfl⟩
    · refine ⟨.rejected, ?_, rfl, rfl, fun _ => rfl⟩
      unfold desiredDecision
      rw [if_neg happrove]
      rfl
  obtain ⟨stage', hdecision', hexecution', hruns, hturn⟩ := hstage
  refine ⟨stage', h.save hplanId (hdecision.trans hdecision'.symm)
    (hexecution.trans hexecution'.symm) hruns ?_ ?_ ?_⟩
  · intro j other comment' hother
    split
    case isTrue heq =>
      rw [heq, hcall] at hother
      cases hother
      exact ⟨hfirst, hdecision'⟩
    case isFalse =>
      refine Or.inl ((h.decider j other comment' hother).resolve_right ?_)
      rintro ⟨_, hpending⟩
      exact desiredDecision_ne_pending other hpending.symm
  · intro j given hother
    have hne : j ≠ i := by
      rintro rfl
      rw [hcall] at hother
      cases hother
    rw [if_neg hne, hturn]
    exact h.executor j given hother
  · intro happroved
    refine ⟨i, comment, ?_, Or.inl rfl⟩
    rw [hcall]
    rw [hdecision'] at happroved
    unfold desiredDecision at happroved
    split at happroved
    case isTrue happrove => rw [happrove]
    case isFalse => exact absurd happroved (by decide)

/-- The two saves of an execution: the claim of an approved action, and its
end. -/
theorem Explains.moved (h : Explains planId calls stage world views)
    {plan : Plan} {given : Bool} (hcall : calls i = .execute given)
    (hplanId : plan.planId = planId) (happroved : stage.decision = "approved")
    (hdecision' : stage'.decision = "approved")
    (hdecision : plan.decision = "approved")
    (hexecution : plan.execution = stage'.execution)
    (hruns : stage'.runs = stage.runs)
    (hself : ((stage.turn i).1 + 1, (stage.turn i).2) = stage'.turn i)
    (hothers : ∀ j, j ≠ i → stage.turn j = stage'.turn j) :
    Explains planId calls stage'
      ⟨Function.update world.files plan.planId (some plan),
        (i, .plan (.save plan)) :: world.log⟩
      (Function.update views i
        ⟨some plan, (views i).saves + 1, (views i).ran⟩) := by
  have hdecide : ∀ {j decision comment},
      calls j = .decide decision comment → j ≠ i := by
    rintro j decision comment hother rfl
    rw [hcall] at hother
    cases hother
  apply h.save hplanId (hdecision.trans hdecision'.symm) hexecution hruns
  · intro j decision comment hother
    rw [if_neg (hdecide hother), hdecision', ← happroved]
    exact h.decider j decision comment hother
  · intro j given' hother
    have hold := h.executor j given' hother
    by_cases hj : j = i
    · subst hj
      rw [if_pos rfl, ← hself, ← hold]
    · rw [if_neg hj, ← hothers j hj, hold]
  · intro _
    obtain ⟨j, comment, hother, hone⟩ := h.approver happroved
    exact ⟨j, comment, hother, Or.inr hone⟩

theorem Explains.run (h : Explains planId calls (.claimed i) world views)
    {given : Bool} (hcall : calls i = .execute given) (payload : Dict Json) :
    Explains planId calls (.ran i)
      ⟨world.files, (i, .runExecutor payload) :: world.log⟩
      (Function.update views i
        ⟨(views i).held, (views i).saves, true⟩) := by
  have hsaves : ∀ j, (Function.update views i
      ⟨(views i).held, (views i).saves, true⟩ j).saves = (views j).saves := by
    intro j
    by_cases hj : j = i
    · rw [hj, Function.update_self]
    · rw [Function.update_of_ne hj]
  have hheld : ∀ j, (Function.update views i
      ⟨(views i).held, (views i).saves, true⟩ j).held = (views j).held := by
    intro j
    by_cases hj : j = i
    · rw [hj, Function.update_self]
    · rw [Function.update_of_ne hj]
  constructor
  · exact h.keyed
  · exact h.file
  · intro j held
    rw [hheld]
    intro hsome
    obtain ⟨hplanId, hsame⟩ := h.held j held hsome
    refine ⟨hplanId, fun hdate => hsame ?_⟩
    rw [UpToDate, if_neg (by simp [DecisionOp.isLoad])] at hdate
    exact hdate.2
  · intro j
    rw [hasSaved_cons, hsaves, ← h.saved j]
    simp [DecisionOp.isSave]
  · intro j decision comment hother
    rw [hsaves]
    exact h.decider j decision comment hother
  · intro j given' hother
    have hold := h.executor j given' hother
    unfold Stage.turn at hold ⊢
    dsimp only at hold ⊢
    by_cases hj : j = i
    · subst hj
      rw [if_pos rfl] at hold ⊢
      rw [Function.update_self]
      have hone : (views j).saves = 1 := congrArg Prod.fst hold
      exact Prod.ext hone rfl
    · rw [if_neg hj] at hold ⊢
      rw [Function.update_of_ne hj]
      exact hold
  · intro happroved
    obtain ⟨j, comment, hother, hone⟩ := h.approver rfl
    exact ⟨j, comment, hother, by rw [hsaves, hone]⟩
  · rw [executions, List.filter_cons_of_pos rfl, List.map_cons, ← executions,
      h.runs]
    rfl

section

variable (h : Explains planId calls stage world views)
include h

theorem Explains.idle {op : DecisionOp} (hload : op.isLoad = false)
    (hsave : op.isSave = false) (hrun : op.isRun = false) :
    Explains planId calls stage ⟨world.files, (i, op) :: world.log⟩
      (Function.update views i (views i)) := by
  apply h.quiet hsave hrun (views i) rfl rfl
  intro held hheld
  obtain ⟨hplanId, hsame⟩ := h.held i held hheld
  refine ⟨hplanId, fun hdate => hsame ?_⟩
  rw [UpToDate, if_neg (by simp [hload])] at hdate
  exact hdate.2

theorem Explains.load (criteria : CriteriaCompiler)
    (hnone : (views i).held = none) :
    Explains planId calls stage
      ⟨world.files, (i, .plan (.load planId)) :: world.log⟩
      (Function.update views i ((views i).next (.plan (.load planId))
        (readFile criteria world.files planId))) := by
  cases hread : readFile criteria world.files planId with
  | error e =>
      apply h.quiet rfl rfl (views i) rfl rfl
      intro held hheld
      exact absurd (hnone.symm.trans hheld) (by simp)
  | ok found =>
      cases found with
      | none =>
          apply h.quiet rfl rfl (views i) rfl rfl
          intro held hheld
          exact absurd (hnone.symm.trans hheld) (by simp)
      | some plan =>
          apply h.quiet rfl rfl ⟨some plan, (views i).saves, (views i).ran⟩
            rfl rfl
          rintro held ⟨⟩
          obtain ⟨stored, hfile, rfl, _⟩ := readFile_some hread
          obtain ⟨stored', hfile', hsame⟩ := h.file
          cases hfile.symm.trans hfile'
          exact ⟨h.keyed planId stored hfile, fun _ => hsame⟩

theorem Explains.mayServe {held plan : Plan}
    (hheld : (views i).held = some held) (hplanId : plan.planId = held.planId)
    (hmay : MaySave (views i) held plan (calls i))
    (hdate : FirstSaveUpToDate world i (.plan (.save plan))) :
    ∃ stage', Explains planId calls stage'
      ⟨Function.update world.files plan.planId (some plan),
        (i, .plan (.save plan)) :: world.log⟩
      (Function.update views i
        ⟨some plan, (views i).saves + 1, (views i).ran⟩) := by
  obtain ⟨hown, hsame⟩ := h.held i held hheld
  have hfirst : (views i).saves = 0 →
      held.decision = stage.decision ∧ held.execution = stage.execution := by
    intro hzero
    apply hsame (hdate rfl _)
    rw [h.saved i, hzero]
    exact fun hne => hne rfl
  generalize hcall : calls i = call at hmay
  cases hmay with
  | decided first pending decided execution =>
      obtain ⟨hdecision, hexecution⟩ := hfirst first
      obtain rfl := Stage.eq_proposed (hdecision.symm.trans pending)
      exact h.decided hcall (hplanId.trans hown) first decided
        (execution.trans hexecution)
  | claimed first approved pending decision running =>
      obtain ⟨hdecision, hexecution⟩ := hfirst first
      obtain rfl := Stage.eq_approved (hdecision.symm.trans approved)
        (hexecution.symm.trans pending)
      refine ⟨.claimed i, h.moved hcall (hplanId.trans hown) rfl rfl decision
        running rfl ?_ ?_⟩
      · simp [Stage.turn]
      · intro j hj
        simp [Stage.turn, hj]
  | recorded second ran decision ended =>
      have hturn := h.executor i _ hcall
      rw [second, ran] at hturn
      obtain rfl := Stage.eq_ran hturn.symm
      have hsuccess : ∃ success : Bool, plan.execution =
          if success then "completed" else "failed" := by
        rcases List.mem_cons.mp ended with heq | hmem
        · exact ⟨true, heq⟩
        · exact ⟨false, List.mem_singleton.mp hmem⟩
      obtain ⟨success, hexecution⟩ := hsuccess
      refine ⟨.ended i success, h.moved hcall (hplanId.trans hown) rfl rfl
        decision hexecution rfl ?_ ?_⟩
      · simp [Stage.turn]
      · intro j hj
        simp [Stage.turn, hj]

end

theorem decisions_serve (criteria : CriteriaCompiler) (planId : String)
    (calls : I → ServiceCall) :
    Pool.Serves (fun i => serviceProtocol planId (calls i))
      (serveDecisions criteria) FirstSaveUpToDate
      (fun world views => ∃ stage, Explains planId calls stage world views) := by
  rintro world views i op proposed ⟨stage, h⟩ hallow hok
  cases op with
  | plan op =>
      cases op with
      | load other =>
          obtain ⟨rfl, hnone⟩ := hallow
          exact ⟨trivial, stage, h.load criteria hnone⟩
      | save plan =>
          obtain ⟨held, hheld, hplanId, hmay⟩ := hallow
          exact ⟨rfl, h.mayServe hheld hplanId hmay hok⟩
      | time => exact ⟨trivial, stage, h.idle rfl rfl rfl⟩
      | monotonic | newTaskId | git | inspect | pick | callStart | callEnd =>
          exact hallow.elim
  | runExecutor payload =>
      obtain ⟨⟨given, hcall⟩, hone, hran⟩ := hallow
      have hturn := h.executor i given hcall
      rw [hone, hran] at hturn
      obtain rfl := Stage.eq_claimed hturn.symm
      exact ⟨trivial, .ran i, h.run hcall payload⟩
  | buildExecutor => exact ⟨trivial, stage, h.idle rfl rfl rfl⟩
  | learn | emitTaskEvent | saveEvidence =>
      exact ⟨rfl, stage, h.idle rfl rfl rfl⟩

end Serve

/-- Calls on one business decision, from a store's files, under a schedule. -/
def runDecisions (config : I → Option ServiceConfig) (planId : String)
    (calls : I → ServiceCall) (criteria : CriteriaCompiler)
    (files : String → Option Plan)
    (schedule : List (I × Oracle DecisionOp DecisionReply)) :
    Pool DecisionOp DecisionReply I (ServiceWorld I)
      (fun _ => ServiceOutcome) :=
  Pool.run (serveDecisions criteria)
    ⟨⟨files, []⟩, fun i => (calls i).run (config i) planId⟩ schedule

def FirstSavesUpToDate (config : I → Option ServiceConfig) (planId : String)
    (calls : I → ServiceCall) (criteria : CriteriaCompiler)
    (files : String → Option Plan)
    (schedule : List (I × Oracle DecisionOp DecisionReply)) : Prop :=
  Pool.Meets (serveDecisions criteria) FirstSaveUpToDate
    (⟨⟨files, []⟩, fun i => (calls i).run (config i) planId⟩ :
      Pool DecisionOp DecisionReply I (ServiceWorld I)
        (fun _ => ServiceOutcome)) schedule

/-- The executor runs at most once, after an approval, and not after a
rejection. -/
structure OnceApproved (calls : I → ServiceCall)
    (pool : Pool DecisionOp DecisionReply I (ServiceWorld I)
      (fun _ => ServiceOutcome)) : Prop where
  once : (executions pool.world.log).length ≤ 1
  approved : executions pool.world.log ≠ [] → ∃ i comment,
    calls i = .decide "approve" comment ∧ HasSaved i pool.world.log ∧
    ∀ out, pool.procs i = .done (.decided out) →
      ∃ result, out = .ok result ∧ result.changed = true
  unrejected : ∀ i comment result, calls i = .decide "reject" comment →
    pool.procs i = .done (.decided (.ok result)) → result.changed = true →
    executions pool.world.log = []

theorem Explains.onceApproved {planId : String} {calls : I → ServiceCall}
    {stage : Stage I}
    {pool : Pool DecisionOp DecisionReply I (ServiceWorld I)
      (fun _ => ServiceOutcome)} {views : I → ServiceView}
    (h : Explains planId calls stage pool.world views)
    (htold : ∀ i out, pool.procs i = .done (.decided out) →
      DecideTold out (views i)) : OnceApproved calls pool where
  once := by
    rw [h.runs]
    exact stage.runs_length
  approved := by
    rw [h.runs]
    intro hruns
    obtain ⟨i, comment, hcall, hone⟩ :=
      h.approver (Stage.decision_of_runs hruns)
    refine ⟨i, comment, hcall, ?_, fun out hdone => ?_⟩
    · rw [h.saved i, hone]
      exact Nat.one_ne_zero
    · rcases htold i out hdone with ⟨hzero, _⟩ | ⟨_, hchanged⟩
      · exact absurd (hone.symm.trans hzero) Nat.one_ne_zero
      · exact hchanged
  unrejected := by
    intro i comment result hcall hdone hchanged
    rw [h.runs]
    have hone : (views i).saves = 1 := by
      rcases htold i (.ok result) hdone with ⟨_, hsame⟩ | ⟨hone, _⟩
      · exact absurd (hchanged.symm.trans (hsame result rfl)) (by decide)
      · exact hone
    rcases h.decider i "reject" comment hcall with hzero | ⟨_, hrejected⟩
    · exact absurd (hone.symm.trans hzero) Nat.one_ne_zero
    · by_contra hruns
      exact absurd ((Stage.decision_of_runs hruns).symm.trans hrejected)
        (by decide)

/-- Where no call saves over another's save, an action runs at most once,
approved. -/
theorem decisions_once_approved (config : I → Option ServiceConfig)
    (planId : String) (calls : I → ServiceCall) (criteria : CriteriaCompiler)
    (files : String → Option Plan) (hkeyed : Keyed files) (plan : Plan)
    (hfile : files planId = some plan) (hpending : plan.decision = "pending")
    (hunrun : plan.execution = "pending")
    (schedule : List (I × Oracle DecisionOp DecisionReply))
    (hdate : FirstSavesUpToDate config planId calls criteria files schedule) :
    OnceApproved calls
      (runDecisions config planId calls criteria files schedule) := by
  have hstart : Pool.Follows (fun i => serviceProtocol planId (calls i))
      (fun _ => ServiceTold)
      (fun world views => ∃ stage, Explains planId calls stage world views)
      ⟨⟨files, []⟩, fun i => (calls i).run (config i) planId⟩ := by
    refine ⟨fun _ => {}, ⟨.proposed, hkeyed, ⟨plan, hfile, hpending, hunrun⟩,
      ?_, ?_, ?_, ?_, ?_, rfl⟩, fun i => wp_serviceCall _ _ _⟩
    · intro i held hheld
      cases hheld
    · intro i
      simp [HasSaved]
    · exact fun _ _ _ _ => Or.inl rfl
    · exact fun _ _ _ => rfl
    · intro happroved
      exact absurd happroved (by simp [Stage.decision])
  obtain ⟨views, ⟨stage, h⟩, hprocs⟩ :=
    Pool.run_follows (decisions_serve criteria planId calls) schedule hdate
      hstart
  apply h.onceApproved
  intro i out hdone
  have htold := hprocs i
  have hdone' : (Pool.run (serveDecisions criteria)
      (⟨⟨files, []⟩, fun i => (calls i).run (config i) planId⟩ :
        Pool DecisionOp DecisionReply I (ServiceWorld I)
          (fun _ => ServiceOutcome)) schedule).procs i =
      .done (.decided out) := hdone
  rw [hdone'] at htold
  exact htold

namespace OnceWitness

def proposal : Plan :=
  { planId := "o"
    status := .running
    metadata := [("kind", .str "business_decision"),
      ("decision", .str "pending"),
      ("action_spec", .obj [("kind", .str "notify")]),
      ("execution", .str "pending")]
    steps := [
      { id := "approve-option", mode := .business, status := verifying,
        acceptance := [{ type := "human_review" }] },
      { id := "execute-action", mode := .business,
        dependsOn := ["approve-option"],
        acceptance := [{ type := "action_succeeded" }] }] }

def noDrafts : CriteriaCompiler := ⟨fun _ => [], by simp⟩

def files (planId : String) : Option Plan :=
  if planId = "o" then some proposal else none

theorem keyed_files : Keyed files := by
  intro planId plan hfile
  unfold files at hfile
  split at hfile
  case isTrue hid =>
    cases hfile
    exact hid.symm
  case isFalse => cases hfile

def fine : Oracle DecisionOp DecisionReply
  | .plan op => calm { success := true } op
  | .buildExecutor _ => .ok ()
  | .runExecutor _ => .ok { success := true }
  | .learn _ => .ok ()
  | .emitTaskEvent _ => .ok ()
  | .saveEvidence _ _ => .ok ()

inductive Caller where
  | approver | first | second
deriving DecidableEq

def calls : Caller → ServiceCall
  | .approver => .decide "approve" ""
  | .first | .second => .execute true

def turns (order : List (Nat × Caller)) :
    List (Caller × Oracle DecisionOp DecisionReply) :=
  order.flatMap fun entry => List.replicate entry.1 (entry.2, fine)

def decisions (order : List (Nat × Caller)) :
    Pool DecisionOp DecisionReply Caller (ServiceWorld Caller)
      (fun _ => ServiceOutcome) :=
  runDecisions (fun _ => none) "o" calls noDrafts files (turns order)

def inTurn : List (Nat × Caller) :=
  [(4, .approver), (8, .first), (8, .second)]

def overlapping : List (Nat × Caller) :=
  [(4, .approver), (1, .first), (8, .second), (7, .first)]

theorem in_turn_once_approved :
    executions (decisions inTurn).world.log = [.first] ∧
      OnceApproved calls (decisions inTurn) := by
  refine ⟨by decide +kernel, ?_⟩
  exact decisions_once_approved (fun _ => none) "o" calls noDrafts files
    keyed_files proposal rfl (by decide) (by decide) (turns inTurn) (by
      unfold FirstSavesUpToDate
      decide +kernel)

/-- Both executions run the action. -/
theorem overlapping_twice :
    executions (decisions overlapping).world.log = [.first, .second] ∧
      ¬OnceApproved calls (decisions overlapping) := by
  have htwice : executions (decisions overlapping).world.log =
      [.first, .second] := by
    decide +kernel
  refine ⟨htwice, fun h => ?_⟩
  have honce := h.once
  rw [htwice] at honce
  exact absurd honce (by decide)

end OnceWitness

end Voly
