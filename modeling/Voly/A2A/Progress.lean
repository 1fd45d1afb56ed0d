/-
The progress of a multi-agent run, and what each phase of a wave keeps of it.
-/
import Voly.A2A.Outcome
import Voly.A2A.Schedule

namespace Voly.A2A

open Python Interaction StepStatus

/-- The roles called, finished, and those that met the spend limit, in order. -/
structure Progress where
  called : List Int := []
  finished : List Int := []
  limited : List Int := []

def spendLimited : ChatReply → Bool
  | .ok response => response.spendLimited
  | .error _ => false

/-- The calls that met the spend limit; the first of them is number `i`. -/
def limitedOf (replies : Nat → ChatReply) : Nat → List ChatCall → List Int
  | _, [] => []
  | i, call :: rest =>
      if spendLimited (replies i) then
        call.idx :: limitedOf replies (i + 1) rest
      else limitedOf replies (i + 1) rest

/-- A role is finished when the tracker is told another status than
`running`. -/
def Progress.next (g : Progress) (op : RoleOp) (reply : RoleReply op) :
    Progress :=
  match op, reply with
  | .chat calls, replies =>
      { g with
        called := g.called ++ calls.map ChatCall.idx
        limited := g.limited ++ limitedOf replies 0 calls }
  | .execute call, _ => { g with called := g.called ++ [call.idx] }
  | .graphUpdate idx status, _ =>
      if status = .running then g
      else { g with finished := g.finished ++ [idx] }
  | _, _ => g

/-- Some wave holds both roles. -/
def SameWave (waves : List (List Assignment)) (i j : Int) : Prop :=
  ∃ wave ∈ waves, i ∈ wave.map Assignment.idx ∧ j ∈ wave.map Assignment.idx

/-- The first call of its role, dependencies finished, no earlier spend limit.
-/
structure Starts (roles : List Assignment) (waves : List (List Assignment))
    (g : Progress) (idx : Int) : Prop where
  first : idx ∉ g.called
  known : idx ∈ roles.map Assignment.idx
  deps : ∀ a ∈ roles, a.idx = idx → ∀ d ∈ a.dependsOn, d ∈ g.finished
  within : ∀ j ∈ g.limited, SameWave waves j idx

/-- What a run may ask: calls that may start, and the end of a role once. -/
def Allowed (roles : List Assignment) (waves : List (List Assignment))
    (g : Progress) : RoleOp → Prop
  | .chat calls =>
      (calls.map ChatCall.idx).Nodup ∧
        ∀ call ∈ calls, Starts roles waves g call.idx
  | .execute call => Starts roles waves g call.idx
  | .graphUpdate idx status => status = .running ∨ idx ∉ g.finished
  | _ => True

/-- The reply does not raise, unless it is the reply of a call. -/
def Mild : (op : RoleOp) → RoleReply op → Prop
  | .plan op, reply => planProtocol.relies () op reply
  | .git _, reply => ∃ status, reply = .ok status
  | .delta _ _ _ _, reply => ∃ files, reply = .ok files
  | _, _ => True

def chatError : ChatReply → String
  | .error message => message
  | .ok response => response.error

def executorError : ExecutorReply → String
  | .error message => message
  | .ok (.dict _ _ error _ _) => error
  | .ok (.text _) => ""

/-- The error text of a call does not read as the note of a skipped role. -/
def Candid : (op : RoleOp) → RoleReply op → Prop
  | .plan (.inspect _ _), world => Typed world
  | .chat _, replies => ∀ i, Unmasked (chatError (replies i))
  | .execute _, reply => Unmasked (executorError reply)
  | _, _ => True

/-- The questions of a run that makes progress by the law of its schedule. -/
def roleProtocol (calm clean : Prop) (roles : List Assignment)
    (waves : List (List Assignment)) :
    Protocol RoleOp RoleReply Progress where
  allows := Allowed roles waves
  relies _ op reply := (calm → Mild op reply) ∧ (clean → Candid op reply)
  next := Progress.next

/-- The plan that a run attaches: where all is calm it can be stored and has a
step for each role. -/
structure Attached (calm : Prop) (roles : List Assignment) (base : Plan) :
    Prop where
  nodup : base.ids.Nodup
  distinct : ∀ a ∈ roles, ∀ b ∈ roles, a.stepId = b.stepId ↔ a.idx = b.idx
  built : ∀ a ∈ roles, ∀ step, base.getStep? a.stepId = some step →
    step.status = pending ∧ step.error = "" ∧
      (∀ check ∈ step.acceptance, check.type ∈ roleCheckTypes) ∧
      ∀ dep ∈ step.dependsOn, dep ∈ base.ids ∧
        ∃ p ∈ roles, p.idx ∈ a.dependsOn ∧ dep = p.stepId
  served : calm → storePath base.planId = .ok () ∧
    ∀ a ∈ roles, a.stepId ∈ base.ids

/-- A role's step is pending, running while in flight, and verified once ok. -/
structure Footing (placed flight : List Int) (done : List Assignment)
    (idx : Int) (step : PlanStep) : Prop where
  fresh : idx ∉ placed → step.status = pending
  going : idx ∈ flight → step.status = running
  ended : ∀ p ∈ done, p.idx = idx → p.ok = true → step.status = verified

/-- The plan object follows the roles that are done. -/
structure Heeds (clean : Prop) (roles : List Assignment) (base : Plan)
    (placed flight : List Int) (done : List Assignment) (plan : Plan) :
    Prop where
  planId : plan.planId = base.planId
  ids : plan.ids = base.ids
  step : ∀ a ∈ roles, ∀ built, base.getStep? a.stepId = some built →
    ∃ step, plan.getStep? a.stepId = some step ∧ SameShape built step ∧
      (clean → Unmasked step.error) ∧
      Footing placed flight done a.idx step

namespace Heeds

variable {calm clean : Prop} {roles : List Assignment}
  {base plan plan' : Plan} {placed flight placed' flight' : List Int}
  {done done' : List Assignment} {a : Assignment} {step step' : PlanStep}

theorem weaken (h : Heeds clean roles base placed flight done plan)
    (hplaced : ∀ i, i ∈ placed → i ∈ placed') (hflight : flight' ⊆ flight)
    (hdone : ∀ p ∈ done', p.ok = true → p ∈ done) :
    Heeds clean roles base placed' flight' done' plan where
  planId := h.planId
  ids := h.ids
  step b hb built hbuilt := by
    obtain ⟨step, hget, hshape, herror, hfoot⟩ := h.step b hb built hbuilt
    refine ⟨step, hget, hshape, herror, ?_, ?_, ?_⟩
    · exact fun hout => hfoot.fresh fun hin => hout (hplaced _ hin)
    · exact fun hin => hfoot.going (hflight hin)
    · exact fun p hp hidx hok => hfoot.ended p (hdone p hp hok) hidx hok

theorem move (hbase : Attached calm roles base)
    (h : Heeds clean roles base placed flight done plan) (ha : a ∈ roles)
    (hget : plan.getStep? a.stepId = some step)
    (hwork : Reworked clean a.stepId plan plan' step step')
    (hplaced : ∀ i, i ∈ placed → i ∈ placed')
    (hflight : ∀ i ∈ flight', i ≠ a.idx → i ∈ flight)
    (hdone : ∀ p ∈ done', p.idx ≠ a.idx → p ∈ done)
    (hfoot : Footing placed' flight' done' a.idx step') :
    Heeds clean roles base placed' flight' done' plan' where
  planId := hwork.moved.planId.trans h.planId
  ids := hwork.moved.ids.trans h.ids
  step b hb built hbuilt := by
    obtain ⟨old, hold, hsame, herror, hbefore⟩ := h.step b hb built hbuilt
    by_cases hid : b.stepId = a.stepId
    · have hidx : b.idx = a.idx := (hbase.distinct b hb a ha).mp hid
      rw [hid, hget] at hold
      obtain rfl := Option.some.inj hold
      rw [hid, hidx]
      exact ⟨step', hwork.moved.found, hsame.trans hwork.shape, hwork.error,
        hfoot⟩
    · have hidx : b.idx ≠ a.idx :=
        fun heq => hid ((hbase.distinct b hb a ha).mpr heq)
      refine ⟨old, ?_, hsame, herror, ?_, ?_, ?_⟩
      · rw [hwork.moved.only.same b.stepId hid]
        exact hold
      · exact fun hout => hbefore.fresh fun hin => hout (hplaced _ hin)
      · exact fun hin => hbefore.going (hflight _ hin hidx)
      · exact fun p hp hpidx hok =>
          hbefore.ended p (hdone p hp (hpidx ▸ hidx)) hpidx hok

theorem find (h : Heeds clean roles base placed flight done plan)
    (ha : a ∈ roles) (hget : plan.getStep? a.stepId = some step) :
    ∃ built, base.getStep? a.stepId = some built ∧ SameShape built step ∧
      (clean → Unmasked step.error) ∧
      Footing placed flight done a.idx step := by
  have hmem : a.stepId ∈ base.ids := by
    rw [← h.ids, ← plan.getStep?_id hget]
    exact List.mem_map_of_mem (plan.getStep?_mem hget)
  obtain ⟨built, hbuilt⟩ := base.exists_getStep? hmem
  obtain ⟨step', hget', hrest⟩ := h.step a ha built hbuilt
  rw [hget] at hget'
  obtain rfl := Option.some.inj hget'
  exact ⟨built, hbuilt, hrest⟩

theorem exists_step (hbase : Attached calm roles base)
    (h : Heeds clean roles base placed flight done plan) (ha : a ∈ roles)
    (hcalm : calm) : ∃ step, plan.getStep? a.stepId = some step := by
  apply plan.exists_getStep?
  rw [h.ids]
  exact (hbase.served hcalm).2 a ha

end Heeds

section Helpers

variable {calm clean : Prop} {roles : List Assignment}
  {waves : List (List Assignment)} {config : RunConfig} {A B : Type}

/-- A helper that makes no progress and raises only in trouble. -/
def Quiet (calm clean : Prop) (roles : List Assignment)
    (waves : List (List Assignment)) (x : HelperScript A) : Prop :=
  ∀ g, Script.Gives (roleProtocol calm clean roles waves) calm x
    (fun _ _ g' => g = g') () g

theorem Quiet.pure (a : A) : Quiet calm clean roles waves (Pure.pure a) :=
  fun _ => rfl

theorem Quiet.bind {x : HelperScript A} {f : A → HelperScript B}
    (hx : Quiet calm clean roles waves x)
    (hf : ∀ a, Quiet calm clean roles waves (f a)) :
    Quiet calm clean roles waves (x >>= f) := by
  intro g
  apply Script.Gives.bind (hx g)
  rintro a ⟨⟩ _ rfl
  exact hf a g

theorem Quiet.askIf {c : Prop} [Decidable c] {x : HelperScript A}
    {default : A} (hx : Quiet calm clean roles waves x) :
    Quiet calm clean roles waves (askIf c x default) := by
  unfold A2A.askIf
  split
  · exact hx
  · exact Quiet.pure default

theorem Quiet.ask {op : RoleOp} (hallow : ∀ g, Allowed roles waves g op)
    (hnext : ∀ g reply, Progress.next g op reply = g) :
    Quiet calm clean roles waves (Script.ask op) :=
  fun g => Script.Gives.ask (hallow g) fun reply _ => (hnext g reply).symm

theorem gitSnapshot_quiet :
    Quiet calm clean roles waves (gitSnapshot config) := by
  apply Quiet.askIf
  intro g
  apply Script.Gives.askOk trivial
  · exact fun _ _ _ _ => rfl
  · intro reply e hreply hraised hcalm
    obtain ⟨status, rfl⟩ := hreply.1 hcalm
    cases hraised

theorem buildPrompt_quiet (priors : List Assignment)
    (failed : Option (List String)) (a : Assignment) :
    Quiet calm clean roles waves (buildPrompt config priors failed a) := by
  refine Quiet.bind gitSnapshot_quiet fun _ => Quiet.bind ?_ fun _ => ?_
  · exact Quiet.askIf (Quiet.ask (fun _ => trivial) fun _ _ => rfl)
  refine Quiet.bind ?_ fun found => ?_
  · exact Quiet.askIf (Quiet.ask (fun _ => trivial) fun _ _ => rfl)
  obtain ⟨_, _⟩ := found
  refine Quiet.bind ?_ fun _ => Quiet.bind ?_ fun _ => Quiet.pure _
  · exact Quiet.askIf (Quiet.ask (fun _ => trivial) fun _ _ => rfl)
  · exact Quiet.askIf (Quiet.ask (fun _ => trivial) fun _ _ => rfl)

theorem noteReply_quiet (reply : ChatReply) (a : Assignment) :
    Quiet calm clean roles waves (noteReply config reply a) := by
  unfold noteReply
  split_ifs
  · exact Quiet.ask (fun _ => trivial) fun _ _ => rfl
  · exact Quiet.ask (fun _ => trivial) fun _ _ => rfl
  · exact Quiet.pure ()

theorem executorBaseline_quiet (gitBefore : Dict String) :
    Quiet calm clean roles waves (executorBaseline config gitBefore) := by
  refine Quiet.bind (Quiet.askIf gitSnapshot_quiet) fun _ =>
    Quiet.bind ?_ fun _ => Quiet.bind ?_ fun _ => Quiet.pure _
  · exact Quiet.askIf (Quiet.ask (fun _ => trivial) fun _ _ => rfl)
  · exact Quiet.ask (fun _ => trivial) fun _ _ => rfl

theorem executorDelta_quiet (wanted : Bool)
    (gitBefore fingerprints : Dict String) (wall : Rat) :
    Quiet calm clean roles waves
      (executorDelta config wanted gitBefore fingerprints wall) := by
  apply Quiet.askIf
  intro g
  apply Script.Gives.askOk trivial
  · exact fun _ _ _ _ => rfl
  · intro reply e hreply hraised hcalm
    obtain ⟨files, rfl⟩ := hreply.1 hcalm
    cases hraised

end Helpers

/-- Where a run stands while some of the placed roles are in flight. -/
structure Standing (clean : Prop) (roles : List Assignment) (base : Plan)
    (placed flight waiting limited : List Int) (run : LocalRun)
    (g : Progress) : Prop where
  assigned : run.assignments = roles
  single : (run.done.map Assignment.idx).Nodup
  flying : flight.Nodup
  placed_iff : ∀ i, i ∈ placed ↔ i ∈ run.done.map Assignment.idx ∨ i ∈ flight
  apart : ∀ i ∈ flight, i ∉ run.done.map Assignment.idx
  known : ∀ i ∈ placed, i ∈ roles.map Assignment.idx
  finished : ∀ i, i ∈ g.finished ↔ i ∈ run.done.map Assignment.idx
  called : ∀ i ∈ g.called, i ∈ placed ∧ i ∉ waiting
  ready : ∀ i ∈ waiting, i ∈ flight ∧ ∀ a ∈ roles, a.idx = i →
    ∀ d ∈ a.dependsOn, d ∈ run.done.map Assignment.idx
  limit : g.limited = limited
  plan : ∀ plan, run.plan = some plan →
    Heeds clean roles base placed flight run.done plan
  explained : clean → (∃ p ∈ run.done, p.ok = false) →
    ∃ p ∈ run.done, p.ok = false ∧ assignmentActive p = true

/-- A role as it is on its way, and what hides none. -/
structure Fit (clean : Prop) (roles : List Assignment) (a : Assignment) :
    Prop where
  role : ∃ role ∈ roles, role.idx = a.idx ∧ role.role = a.role
  clear : clean → a.Clear
  error : clean → Unmasked a.error

theorem setDone_fresh {a : Assignment} {l : List Assignment}
    (h : a.idx ∉ l.map Assignment.idx) : setDone a l = l ++ [a] := by
  induction l with
  | nil => rfl
  | cons p rest ih =>
      rw [List.map_cons, List.mem_cons, not_or] at h
      rw [setDone, if_neg (Ne.symm h.1), ih h.2, List.cons_append]

section Standing

variable {calm clean : Prop} {config : RunConfig} {roles : List Assignment}
  {base : Plan} {waves : List (List Assignment)}
  {placed flight waiting limited placed' flight' waiting' : List Int}
  {run : LocalRun} {g : Progress} {a b : Assignment}

theorem Standing.perm
    (h : Standing clean roles base placed flight waiting limited run g)
    (hflight : flight.Perm flight') (hwaiting : waiting.Perm waiting') :
    Standing clean roles base placed flight' waiting' limited run g :=
  { h with
    flying := hflight.nodup_iff.mp h.flying
    placed_iff := fun i => by rw [h.placed_iff i, hflight.mem_iff]
    apart := fun i hi => h.apart i (hflight.mem_iff.mpr hi)
    called := fun i hi => ⟨(h.called i hi).1,
      fun hin => (h.called i hi).2 (hwaiting.mem_iff.mpr hin)⟩
    ready := fun i hi => by
      obtain ⟨hfly, hdeps⟩ := h.ready i (hwaiting.mem_iff.mpr hi)
      exact ⟨hflight.mem_iff.mp hfly, hdeps⟩
    plan := fun plan hplan => (h.plan plan hplan).weaken (fun _ hi => hi)
      (fun i hi => hflight.mem_iff.mpr hi) fun _ hp _ => hp }

theorem Standing.record
    (h : Standing clean roles base placed flight waiting limited run g)
    (hfresh : b.idx ∉ run.done.map Assignment.idx)
    (hknown : b.idx ∈ roles.map Assignment.idx)
    (hplaced : ∀ i, i ∈ placed' ↔ i = b.idx ∨ i ∈ placed)
    (hflight : ∀ i, i ∈ flight' ↔ i ∈ flight ∧ i ≠ b.idx)
    (hnodup : flight'.Nodup) (hwaiting : b.idx ∉ waiting) {run' : LocalRun}
    (hassigned : run'.assignments = run.assignments)
    (hdone : run'.done = run.done)
    (hplan : ∀ plan, run'.plan = some plan →
      Heeds clean roles base placed' flight' (run.done ++ [b]) plan)
    (hexplained : clean → b.ok = false →
      assignmentActive b = true ∨ ∃ p ∈ run.done, p.ok = false) :
    Standing clean roles base placed' flight' waiting limited
      (run'.record b) { g with finished := g.finished ++ [b.idx] } := by
  have hrecord : (run'.record b).done = run.done ++ [b] := by
    rw [LocalRun.record, hdone, setDone_fresh hfresh]
  have hidxs : (run'.record b).done.map Assignment.idx =
      run.done.map Assignment.idx ++ [b.idx] := by
    rw [hrecord, List.map_append, List.map_singleton]
  refine ⟨hassigned.trans h.assigned, ?_, hnodup, ?_, ?_, ?_, ?_, ?_, ?_,
    h.limit, ?_, ?_⟩
  · rw [hidxs]
    exact List.nodup_append.mpr ⟨h.single, List.nodup_singleton _,
      fun i hi j hj heq => hfresh (by
        rw [← List.mem_singleton.mp hj, ← heq]
        exact hi)⟩
  · intro i
    rw [hidxs, hplaced, h.placed_iff, hflight, List.mem_append,
      List.mem_singleton]
    tauto
  · intro i hi
    obtain ⟨hfly, hne⟩ := (hflight i).mp hi
    rw [hidxs, List.mem_append, List.mem_singleton]
    exact not_or.mpr ⟨h.apart i hfly, hne⟩
  · intro i hi
    rcases (hplaced i).mp hi with rfl | hi
    · exact hknown
    · exact h.known i hi
  · intro i
    rw [hidxs, List.mem_append, List.mem_append, h.finished]
  · intro i hi
    exact ⟨(hplaced i).mpr (Or.inr (h.called i hi).1), (h.called i hi).2⟩
  · intro i hi
    obtain ⟨hfly, hdeps⟩ := h.ready i hi
    refine ⟨(hflight i).mpr ⟨hfly, fun heq => hwaiting (heq ▸ hi)⟩, ?_⟩
    intro a ha hidx d hd
    rw [hidxs]
    exact List.mem_append_left _ (hdeps a ha hidx d hd)
  · intro plan hcase
    rw [hrecord]
    exact hplan plan hcase
  · rintro hclean ⟨p, hp, hok⟩
    rw [hrecord] at hp ⊢
    have hold : (∃ p ∈ run.done, p.ok = false) →
        ∃ p ∈ run.done ++ [b], p.ok = false ∧ assignmentActive p = true := by
      intro hfailed
      obtain ⟨q, hq, hrest⟩ := h.explained hclean hfailed
      exact ⟨q, List.mem_append_left _ hq, hrest⟩
    rcases List.mem_append.mp hp with hp | hp
    · exact hold ⟨p, hp, hok⟩
    · obtain rfl := List.mem_singleton.mp hp
      rcases hexplained hclean hok with hactive | hfailed
      · exact ⟨p, List.mem_append_right _ List.mem_cons_self, hok, hactive⟩
      · exact hold hfailed

end Standing

end Voly.A2A
