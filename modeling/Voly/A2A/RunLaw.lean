/-
The law of a multi-agent run's schedule, and what a completed run says of its
roles.
-/
import Voly.A2A.Phases
import Voly.A2A.Shadow

namespace Voly.A2A

open Python Interaction StepStatus

section Waves

variable {calm clean : Prop} {config : RunConfig} {roles : List Assignment}
  {base : Plan} {waves : List (List Assignment)}
  {placed limited : List Int} {run : LocalRun} {g : Progress}

theorem mem_runBy {f : Bool → Bool} {items : List (Bool × Prepared)}
    {p : Prepared} (h : p ∈ runBy f items) : ∃ item ∈ items, item.2 = p := by
  obtain ⟨item, hitem, rfl⟩ := List.mem_map.mp h
  exact ⟨item, (List.mem_filter.mp hitem).1, rfl⟩

theorem gives_runWave (hbase : Attached calm roles base)
    (hunique : (roles.map Assignment.idx).Nodup)
    (hfit : ∀ a ∈ roles, Fit clean roles a) {wave : List Assignment}
    (hwave : Layer roles placed wave) (hmem : wave ∈ waves)
    (h : Standing clean roles base placed [] [] [] run g) :
    Script.Gives (roleProtocol calm clean roles waves) calm
      (runWave config wave)
      (fun stop run' g' => ∃ limited, HandsOn clean limited stop ∧
        Standing clean roles base
          ((wave.map Assignment.idx).reverse ++ placed) [] [] limited run' g')
      run g := by
  unfold runWave
  apply Script.Gives.bind (gives_startRoles hbase hunique hfit hwave
    (fun _ _ _ _ => List.not_mem_nil) h)
  intro items run' g' hlaunched
  have hsplit := runBy_perm items
  have hready : ∀ f, ∀ p ∈ runBy f items, Fit clean roles p.assignment := by
    intro f p hp
    obtain ⟨item, hitem, rfl⟩ := mem_runBy hp
    exact hlaunched.fit item hitem
  have hsame : ∀ f f', ∀ j ∈ (runBy f items).map fun p => p.assignment.idx,
      ∀ i ∈ (runBy f' items).map fun p => p.assignment.idx,
        SameWave waves j i := by
    have hin : ∀ f, ∀ i ∈ (runBy f items).map fun p => p.assignment.idx,
        i ∈ wave.map Assignment.idx := by
      intro f i hi
      obtain ⟨p, hp, rfl⟩ := List.mem_map.mp hi
      obtain ⟨item, hitem, rfl⟩ := mem_runBy hp
      exact hlaunched.within _ (List.mem_map_of_mem hitem)
    exact fun f f' j hj i hi => ⟨wave, hmem, hin f j hj, hin f' i hi⟩
  have hflight : (items.map itemIdx ++ []).Perm
      ((runBy id items).map (fun p : Prepared => p.assignment.idx) ++
        (runBy not items).map fun p : Prepared => p.assignment.idx) := by
    rw [List.append_nil]
    exact hsplit
  have hstand := hlaunched.standing.perm hflight
    (hflight.trans List.perm_append_comm)
  have hnodup := List.perm_append_comm.nodup_iff.mp hstand.flying
  apply Script.Gives.bind (gives_chatCalls (runBy not items) hnodup
    (by rw [List.nil_append]; exact hsame not not) (hready not) hstand)
  intro replies run'' g'' hcalled
  apply Script.Gives.bind (gives_runExecutors (runBy id items) hbase
    (hready id) ?_ (List.nodup_append.mp hnodup).2.1 hcalled.standing)
  · intro _ run₃ g₃ hexecuted
    rw [← hcalled.idxs,
      ← List.append_nil (replies.map fun item => item.1.assignment.idx)]
      at hexecuted
    apply Script.Gives.mono (gives_finalizeChats hbase hcalled.fit
      hcalled.candid hexecuted)
    rintro stop run₄ g₄ ⟨hhands, hdone⟩
    exact ⟨_, hhands, hdone⟩
  · intro j hj
    rw [List.nil_append] at hj
    have hchat := limitedItems_mem hj
    rw [hcalled.idxs] at hchat
    exact hsame not id j hchat

/-- The done roles are the run's roles, each once, and failures are explained.
-/
structure Tally (clean : Prop) (roles : List Assignment) (base : Plan)
    (run : LocalRun) : Prop where
  assigned : run.assignments = roles
  single : (run.done.map Assignment.idx).Nodup
  known : ∀ i ∈ run.done.map Assignment.idx, i ∈ roles.map Assignment.idx
  explained : clean → (∃ p ∈ run.done, p.ok = false) →
    ∃ p ∈ run.done, p.ok = false ∧ assignmentActive p = true
  plan : ∀ plan, run.plan = some plan → plan.planId = base.planId

/-- Every role is done. -/
structure Closed (clean : Prop) (roles : List Assignment) (base : Plan)
    (run : LocalRun) : Prop extends Tally clean roles base run where
  all : ∀ a ∈ roles, a.idx ∈ run.done.map Assignment.idx

theorem Standing.tally
    (h : Standing clean roles base placed [] [] limited run g) :
    Tally clean roles base run :=
  ⟨h.assigned, h.single,
    fun i hi => h.known i ((h.placed_iff i).mpr (Or.inl hi)), h.explained,
    fun plan hplan => (h.plan plan hplan).planId⟩

/-- A role that the spend limit leaves out. -/
def Assignment.markLimited (response : ChatResponse) (a : Assignment) :
    Assignment :=
  { a with
    error := orElse response.error "Spend limit exceeded"
    ok := false }

theorem Tally.mark {response : ChatResponse} {a : Assignment}
    (h : Tally clean roles base run) (ha : a ∈ roles)
    (hfit : Fit clean roles a)
    (hresponse : clean → Unmasked response.error)
    (hfresh : a.idx ∉ run.done.map Assignment.idx) :
    Tally clean roles base (run.record (a.markLimited response)) ∧
      (run.record (a.markLimited response)).done =
        run.done ++ [a.markLimited response] := by
  have hdone : (run.record (a.markLimited response)).done =
      run.done ++ [a.markLimited response] := by
    rw [LocalRun.record, setDone_fresh (by exact hfresh)]
  have hidxs : (run.record (a.markLimited response)).done.map
      Assignment.idx = run.done.map Assignment.idx ++ [a.idx] := by
    rw [hdone, List.map_append]
    rfl
  refine ⟨⟨h.assigned, ?_, ?_, ?_, h.plan⟩, hdone⟩
  · rw [hidxs]
    exact List.nodup_append.mpr ⟨h.single, List.nodup_singleton _,
      fun i hi j hj heq => hfresh (by
        rw [← List.mem_singleton.mp hj, ← heq]
        exact hi)⟩
  · intro i hi
    rw [hidxs] at hi
    rcases List.mem_append.mp hi with hi | hi
    · exact h.known i hi
    · rw [List.mem_singleton.mp hi]
      exact List.mem_map_of_mem ha
  · intro hclean _
    have hactive : assignmentActive (a.markLimited response) = true :=
      active_of_clear (hfit.clear hclean) (unmasked_orElse (hresponse hclean)
        (by unfold Unmasked; decide))
    rw [hdone]
    exact ⟨_, List.mem_append_right _ List.mem_cons_self, rfl, hactive⟩

section

variable (response : ChatResponse) {step : LocalRun → Assignment → LocalRun}
  (hskip : ∀ {run a p}, run.prior? a.idx = some p → step run a = run)
  (hmark : ∀ {run a}, run.prior? a.idx = none → step run a = run.record
    (a.markLimited response)) (hfit : ∀ a ∈ roles, Fit clean roles a)
  (hresponse : clean → Unmasked response.error)
include response hskip hmark hfit hresponse

theorem Tally.fold {rest : List Assignment} (hroles : ∀ a ∈ rest, a ∈ roles)
    (h : Tally clean roles base run) :
    Tally clean roles base (rest.foldl step run) ∧
      ∀ i, i ∈ run.done.map Assignment.idx ∨ i ∈ rest.map Assignment.idx →
        i ∈ (rest.foldl step run).done.map Assignment.idx := by
  induction rest generalizing run with
  | nil => exact ⟨h, fun i hi => hi.resolve_right List.not_mem_nil⟩
  | cons a rest ih =>
      have ha := hroles a List.mem_cons_self
      have hrest := fun b hb => hroles b (List.mem_cons_of_mem a hb)
      rw [List.foldl_cons]
      cases hprior : run.prior? a.idx with
      | some p =>
          rw [hskip hprior]
          obtain ⟨hend, hall⟩ := ih hrest h
          refine ⟨hend, fun i hi => hall i ?_⟩
          rcases hi with hi | hi
          · exact Or.inl hi
          · rcases List.mem_cons.mp hi with rfl | hi
            · left
              have hidx : p.idx = a.idx := by
                simpa using List.find?_some hprior
              rw [← hidx]
              exact List.mem_map_of_mem (List.mem_of_find?_eq_some hprior)
            · exact Or.inr hi
      | none =>
          have hfresh : a.idx ∉ run.done.map Assignment.idx := by
            intro hin
            obtain ⟨p, hp, hidx⟩ := List.mem_map.mp hin
            have hnot := List.find?_eq_none.mp hprior p hp
            exact hnot (decide_eq_true hidx)
          obtain ⟨hmarked, hdone⟩ :=
            h.mark ha (hfit a ha) hresponse hfresh
          rw [hmark hprior]
          obtain ⟨hend, hall⟩ := ih hrest hmarked
          refine ⟨hend, fun i hi => hall i ?_⟩
          rw [hdone, List.map_append, List.mem_append]
          rcases hi with hi | hi
          · exact Or.inl (Or.inl hi)
          · rcases List.mem_cons.mp hi with rfl | hi
            · exact Or.inl (Or.inr List.mem_cons_self)
            · exact Or.inr hi

theorem Tally.closes (h : Tally clean roles base run) :
    Closed clean roles base (run.assignments.foldl step run) := by
  obtain ⟨hend, hall⟩ := h.fold response hskip hmark hfit hresponse
    (fun a ha => h.assigned ▸ ha : ∀ a ∈ run.assignments, a ∈ roles)
  refine ⟨hend, fun a ha => hall a.idx (Or.inr ?_)⟩
  rw [h.assigned]
  exact List.mem_map_of_mem ha

end

theorem Tally.markRest {response : ChatResponse}
    (hfit : ∀ a ∈ roles, Fit clean roles a)
    (hresponse : clean → Unmasked response.error)
    (h : Tally clean roles base run) :
    Closed clean roles base (markRest response run) := by
  refine h.closes response ?_ ?_ hfit hresponse
  · intro run a p hprior
    rw [hprior]
  · intro run a hprior
    rw [hprior]
    rfl

theorem gives_walkWaves (hbase : Attached calm roles base)
    (hunique : (roles.map Assignment.idx).Nodup)
    (hfit : ∀ a ∈ roles, Fit clean roles a)
    {rest : List (List Assignment)} (hlayers : Layered roles placed rest)
    (hsub : ∀ wave ∈ rest, wave ∈ waves)
    (hcover : ∀ a ∈ roles, a.idx ∈ placed ∨
      ∃ wave ∈ rest, a.idx ∈ wave.map Assignment.idx)
    (h : Standing clean roles base placed [] [] [] run g) :
    Script.Gives (roleProtocol calm clean roles waves) calm
      (walkWaves config rest)
      (fun _ run' _ => Closed clean roles base run') run g := by
  induction hlayers generalizing run g with
  | nil =>
      refine ⟨h.tally, fun a ha => ?_⟩
      rcases hcover a ha with hin | ⟨wave, hwave, _⟩
      · exact ((h.placed_iff a.idx).mp hin).resolve_right List.not_mem_nil
      · cases hwave
  | @cons placed wave rest hwave _ ih =>
      unfold walkWaves
      apply Script.Gives.bind (gives_runWave hbase hunique hfit hwave
        (hsub wave List.mem_cons_self) h)
      rintro stop run' g' ⟨limited, ⟨hnone, hsome⟩, hstand⟩
      cases stop with
      | none =>
          rw [hnone rfl] at hstand
          apply ih (fun w hw => hsub w (List.mem_cons_of_mem _ hw)) ?_ hstand
          intro a ha
          rcases hcover a ha with hin | ⟨w, hw, hin⟩
          · exact Or.inl (List.mem_append_right _ hin)
          · rcases List.mem_cons.mp hw with rfl | hw
            · exact Or.inl (List.mem_append_left _ (List.mem_reverse.mpr hin))
            · exact Or.inr ⟨w, hw, hin⟩
      | some response =>
          exact hstand.tally.markRest hfit (hsome response rfl)

theorem gives_closePlan (hbase : Attached calm roles base)
    (h : Closed clean roles base run) :
    Script.Gives (roleProtocol calm clean roles waves) calm closePlan
      (fun _ run' _ => Closed clean roles base run') run g := by
  unfold closePlan
  apply Script.Gives.read
  cases hplan : run.plan with
  | none => exact h
  | some plan =>
      have hsave : Script.Gives (stepProtocol calm clean) calm
          (do
            Script.update recomputePlanStatus
            storeSave)
          (fun _ plan' _ => plan'.planId = base.planId) plan () := by
        apply Script.Gives.update
        apply gives_storeSave
        · intro hcalm
          rw [recomputePlanStatus_planId, h.plan plan hplan]
          exact (hbase.served hcalm).1
        · intro now
          rw [← h.plan plan hplan, ← recomputePlanStatus_planId plan]
          rfl
      apply Script.Gives.mono (gives_onPlan hsave)
      rintro _ _ _ ⟨_, plan', rfl, hid⟩
      refine ⟨⟨h.assigned, h.single, h.known, h.explained, ?_⟩, h.all⟩
      rintro _ ⟨⟩
      exact hid

theorem gives_runWaves (hbase : Attached calm roles base)
    (hunique : (roles.map Assignment.idx).Nodup)
    (hearlier : DependsEarlier roles)
    (hfit : ∀ a ∈ roles, Fit clean roles a)
    (h : Standing clean roles base [] [] [] [] run g) :
    Script.Gives (roleProtocol calm clean roles (config.waves roles)) calm
      (runWaves config)
      (fun result run' _ => result = run'.result ∧
        Closed clean roles base run') run g := by
  unfold runWaves
  apply Script.Gives.read
  rw [h.assigned]
  apply Script.Gives.bind (gives_walkWaves hbase hunique hfit
    (layered_waves config hunique hearlier) (fun _ hwave => hwave)
    (fun a ha => Or.inr (waves_cover config hearlier ha)) h)
  intro _ run' g' hclosed
  apply Script.Gives.bind (gives_closePlan hbase hclosed)
  intro _ run'' g'' hstored
  exact ⟨rfl, hstored⟩

/-- At the end of a run its result lists what is done, in the order of the
roles. -/
theorem Closed.result (hunique : (roles.map Assignment.idx).Nodup)
    (h : Closed clean roles base run) :
    run.result.map Assignment.idx = roles.map Assignment.idx ∧
      (run.done.map Assignment.idx).Perm (roles.map Assignment.idx) ∧
      ∀ p, p ∈ run.result ↔ p ∈ run.done := by
  have hprior : ∀ a ∈ roles, ∃ p ∈ run.done, p.idx = a.idx ∧
      (run.prior? a.idx).getD a = p := by
    intro a ha
    obtain ⟨q, hq, hidx⟩ := List.mem_map.mp (h.all a ha)
    have hsome : (run.prior? a.idx).isSome := by
      rw [LocalRun.prior?, List.find?_isSome]
      exact ⟨q, hq, decide_eq_true hidx⟩
    obtain ⟨p, hp⟩ := Option.isSome_iff_exists.mp hsome
    refine ⟨p, List.mem_of_find?_eq_some hp, ?_, by rw [hp]; rfl⟩
    simpa using List.find?_some hp
  unfold LocalRun.result
  rw [h.assigned]
  refine ⟨?_, ?_, fun p => ⟨fun hp => ?_, fun hp => ?_⟩⟩
  · rw [List.map_map]
    apply List.map_congr_left
    intro a ha
    obtain ⟨p, _, hidx, hget⟩ := hprior a ha
    rw [Function.comp_apply, hget, hidx]
  · apply (List.perm_ext_iff_of_nodup h.single hunique).mpr
    intro i
    refine ⟨h.known i, fun hi => ?_⟩
    obtain ⟨a, ha, rfl⟩ := List.mem_map.mp hi
    exact h.all a ha
  · obtain ⟨a, ha, rfl⟩ := List.mem_map.mp hp
    obtain ⟨q, hq, _, hget⟩ := hprior a ha
    rw [hget]
    exact hq
  · obtain ⟨a, ha, hidx⟩ := List.mem_map.mp
      (h.known p.idx (List.mem_map_of_mem hp))
    obtain ⟨q, hq, hqidx, hget⟩ := hprior a ha
    refine List.mem_map.mpr ⟨a, ha, ?_⟩
    rw [hget]
    exact List.inj_on_of_nodup_map h.single hq hp (hqidx.trans hidx)

end Waves

section Setup

variable {calm clean : Prop} {config : RunConfig} {cfg : PlanConfig}
  {planConfig : Option PlanConfig} {assignments : List Assignment}

/-- The roles of a run, with their modes set. -/
def RunConfig.team (config : RunConfig) (assignments : List Assignment) :
    List Assignment :=
  assignments.map (Assignment.resolveMode config)

def GatesAttach (config : RunConfig) (planConfig : Option PlanConfig)
    (assignments : List Assignment) : Prop :=
  ∃ cfg, planConfig = some cfg ∧ planGatesEnabled planConfig = true ∧
    validate (mirrorPlan config (openRun config planConfig assignments) cfg) =
      .ok ()

theorem attached_mirrorPlan
    (hunique : (assignments.map Assignment.idx).Nodup)
    (hvalid : validate (mirrorPlan config
      (openRun config planConfig assignments) cfg) = .ok ())
    (hserved : calm → storePath config.planId = .ok () ∧
      ∀ a ∈ assignments, a.role ≠ "") :
    Attached calm (config.team assignments)
      (mirrorPlan config (openRun config planConfig assignments) cfg) := by
  have hwf := wellFormed_of_validate hvalid
  have hidx : (config.team assignments).map Assignment.idx =
      assignments.map Assignment.idx := List.map_map
  have hroles : ((config.team assignments).map Assignment.idx).Nodup := by
    rw [hidx]
    exact hunique
  refine ⟨hwf.nodup, ?_, ?_, ?_⟩
  · intro a ha b hb
    constructor
    · exact fun heq => assignmentStepId_idx heq
    · intro heq
      rw [List.inj_on_of_nodup_map hroles ha hb heq]
  · intro a ha step hget
    obtain ⟨b, hb, rfl⟩ := List.mem_map.mp (Plan.getStep?_mem _ hget)
    have hsame : b = a := by
      apply List.inj_on_of_nodup_map hroles hb ha
      exact assignmentStepId_idx (Plan.getStep?_id _ hget)
    subst hsame
    refine ⟨rfl, rfl, fun check hcheck => defaultAcceptance_types hcheck, ?_⟩
    intro dep hdep
    exact ⟨hwf.known _ (Plan.getStep?_mem _ hget) dep hdep,
      mem_dependencyIds hdep⟩
  · intro hcalm
    obtain ⟨hstore, hnames⟩ := hserved hcalm
    refine ⟨hstore, fun a ha => ?_⟩
    obtain ⟨b, hb, rfl⟩ := List.mem_map.mp ha
    have hname : (b.resolveMode config).role ≠ "" := hnames b hb
    apply List.mem_map.mpr
    refine ⟨_, List.mem_map_of_mem ha, ?_⟩
    unfold assignmentStep orElse Assignment.stepId
    rw [if_neg hname]

/-- A plan that asks nothing of its roles, which a run without gates follows. -/
def barePlan (roles : List Assignment) : Plan :=
  { planId := "a2a", steps := roles.map fun a => { id := a.stepId } }

theorem attached_barePlan {roles : List Assignment}
    (hunique : (roles.map Assignment.idx).Nodup) :
    Attached calm roles (barePlan roles) := by
  have hids : (barePlan roles).ids = roles.map Assignment.stepId :=
    List.map_map
  have hstore : storePath "a2a" = .ok () := by decide
  refine ⟨?_, ?_, ?_, fun _ => ⟨hstore, fun a ha => ?_⟩⟩
  · rw [hids]
    exact List.Pairwise.map _ (fun a b hne heq =>
      hne (assignmentStepId_idx heq)) (List.pairwise_map.mp hunique)
  · intro a ha b hb
    constructor
    · exact fun heq => assignmentStepId_idx heq
    · intro heq
      rw [List.inj_on_of_nodup_map hunique ha hb heq]
  · intro a _ step hget
    obtain ⟨b, _, rfl⟩ := List.mem_map.mp (Plan.getStep?_mem _ hget)
    exact ⟨rfl, rfl, (fun _ hin => nomatch hin), fun _ hin => nomatch hin⟩
  · rw [hids]
    exact List.mem_map_of_mem ha

theorem standing_start {roles : List Assignment} {base : Plan}
    {run : LocalRun} (hassigned : run.assignments = roles)
    (hdone : run.done = [])
    (hplan : ∀ plan, run.plan = some plan →
      plan.planId = base.planId ∧ plan.steps = base.steps)
    (hbase : Attached calm roles base) :
    Standing clean roles base [] [] [] [] run {} := by
  have hnone : ∀ i, i ∉ run.done.map Assignment.idx := by
    rw [hdone]
    exact fun _ => List.not_mem_nil
  refine ⟨hassigned, by rw [hdone]; exact List.nodup_nil, List.nodup_nil, ?_,
    List.forall_mem_nil _, List.forall_mem_nil _, ?_,
    List.forall_mem_nil _, List.forall_mem_nil _, rfl, ?_, ?_⟩
  · intro i
    simp [hnone i]
  · intro i
    simp [hnone i]
  · intro plan hsome
    obtain ⟨hid, hsteps⟩ := hplan plan hsome
    refine ⟨hid, by rw [Plan.ids, hsteps]; rfl, fun a ha built hbuilt => ?_⟩
    obtain ⟨hpending, herror, _, _⟩ := hbase.built a ha built hbuilt
    refine ⟨built, ?_, SameShape.rfl, ?_, fun _ => hpending,
      fun hin => absurd hin List.not_mem_nil, ?_⟩
    · rw [Plan.getStep?, hsteps]
      exact hbuilt
    · rw [herror]
      exact fun _ => empty_unmasked
    · rw [hdone]
      exact List.forall_mem_nil _
  · rintro _ ⟨p, hp, _⟩
    rw [hdone] at hp
    cases hp

/-- What a run stands on when it sets out. -/
def SetOut (calm clean : Prop) (roles : List Assignment) (run : LocalRun)
    (g : Progress) : Prop :=
  ∃ base, Attached calm roles base ∧
    Standing clean roles base [] [] [] [] run g

theorem setOut_off {roles : List Assignment} {run : LocalRun}
    (hunique : (roles.map Assignment.idx).Nodup)
    (hassigned : run.assignments = roles) (hdone : run.done = [])
    (hnone : run.plan = none) : SetOut calm clean roles run {} := by
  have hbare : Attached calm roles (barePlan roles) :=
    attached_barePlan hunique
  refine ⟨_, hbare, standing_start hassigned hdone ?_ hbare⟩
  intro plan hsome
  rw [hnone] at hsome
  cases hsome

section

variable {waves : List (List Assignment)}
  (hunique : (assignments.map Assignment.idx).Nodup)
  (hserved : calm → GatesAttach config planConfig assignments → storePath
    config.planId = .ok () ∧ ∀ a ∈ assignments, a.role ≠ "")
include hunique hserved

theorem gives_attachPlan :
    Script.Gives (roleProtocol calm clean (config.team assignments) waves) calm
      (attachPlan config)
      (fun _ run g => SetOut calm clean (config.team assignments) run g)
      (openRun config planConfig assignments) {} := by
  have hroles : ((config.team assignments).map Assignment.idx).Nodup := by
    rw [show (config.team assignments).map Assignment.idx =
      assignments.map Assignment.idx from List.map_map]
    exact hunique
  unfold attachPlan
  apply Script.Gives.read
  cases planConfig with
  | none => exact setOut_off hroles rfl rfl rfl
  | some cfg =>
      change Script.Gives _ calm (if planGatesEnabled (some cfg) then _ else _)
        _ _ _
      split
      · next hon =>
          dsimp only
          cases hvalid : validate (mirrorPlan config
              (openRun config (some cfg) assignments) cfg) with
          | error e => exact setOut_off hroles rfl rfl rfl
          | ok _ =>
              have hattach : GatesAttach config (some cfg) assignments :=
                ⟨cfg, rfl, hon, hvalid⟩
              have hbase := attached_mirrorPlan hunique hvalid
                fun hcalm => hserved hcalm hattach
              apply Script.Gives.update
              apply Script.Gives.mono (gives_onPlan (gives_storeSave
                (fun hcalm => (hserved hcalm hattach).1)
                (Q := fun _ plan' _ => plan'.planId =
                    (mirrorPlan config
                      (openRun config (some cfg) assignments) cfg).planId ∧
                  plan'.steps = (mirrorPlan config
                    (openRun config (some cfg) assignments) cfg).steps)
                fun _ => ⟨rfl, rfl⟩))
              rintro _ _ _ ⟨rfl, plan', rfl, hsame⟩
              refine ⟨_, hbase, standing_start rfl rfl ?_ hbase⟩
              rintro _ ⟨⟩
              exact hsame
      · exact setOut_off hroles rfl rfl rfl

theorem gives_setup :
    Script.Gives (roleProtocol calm clean (config.team assignments) waves) calm
      (setupPlanAndModes config)
      (fun _ run g => SetOut calm clean (config.team assignments) run g)
      { assignments, planConfig } {} := by
  unfold setupPlanAndModes
  apply Script.Gives.bind (Script.Gives.ask trivial
    (Q := fun _ run g => run = { assignments, planConfig } ∧ g = {})
    fun _ _ => ⟨rfl, rfl⟩)
  rintro _ _ _ ⟨rfl, rfl⟩
  apply Script.Gives.update
  exact gives_attachPlan hunique hserved

end

theorem gives_runLocal (hunique : (assignments.map Assignment.idx).Nodup)
    (hearlier : DependsEarlier assignments)
    (hfresh : clean → ∀ a ∈ assignments, a.Clear ∧ Unmasked a.error)
    (hserved : calm → GatesAttach config planConfig assignments →
      storePath config.planId = .ok () ∧ ∀ a ∈ assignments, a.role ≠ "") :
    Script.Gives (roleProtocol calm clean (config.team assignments)
        (config.waves (config.team assignments))) calm (runLocal config)
      (fun result run _ => result = run.result ∧ ∃ base,
        Closed clean (config.team assignments) base run)
      { assignments, planConfig } {} := by
  unfold runLocal
  apply Script.Gives.bind (gives_setup hunique hserved)
  rintro _ run g ⟨base, hbase, hstand⟩
  have hroles : ((config.team assignments).map Assignment.idx).Nodup := by
    rw [show (config.team assignments).map Assignment.idx =
      assignments.map Assignment.idx from List.map_map]
    exact hunique
  have hfit : ∀ a ∈ config.team assignments,
      Fit clean (config.team assignments) a := by
    intro a ha
    obtain ⟨b, hb, rfl⟩ := List.mem_map.mp ha
    exact ⟨⟨_, ha, rfl, rfl⟩, fun hclean => (hfresh hclean b hb).1,
      fun hclean => (hfresh hclean b hb).2⟩
  apply Script.Gives.mono (gives_runWaves hbase hroles
    (hearlier.modes config) hfit hstand)
  exact fun _ _ _ hend => ⟨hend.1, base, hend.2⟩

end Setup

def progressOf (log : List RoleExchange) : Progress :=
  log.foldl (fun g exchange => g.next exchange.op exchange.reply) {}

def RoleCall.idx : RoleCall → Int
  | .chat call => call.idx
  | .execute call => call.idx

/-- A role is called at most once, after its dependencies, and not after an
earlier wave met the spend limit; and its end is told once. -/
structure ScheduleLaw (config : RunConfig) (assignments : List Assignment)
    (log : List RoleExchange) : Prop where
  once : ((log.flatMap RoleExchange.calls).map RoleCall.idx).Nodup
  ordered : ∀ before exchange rest, log = before ++ exchange :: rest →
    ∀ call ∈ exchange.calls, ∃ a ∈ assignments, a.idx = call.idx ∧
      ∀ d ∈ a.dependsOn, d ∈ (progressOf before).finished
  stopped : ∀ before exchange rest, log = before ++ exchange :: rest →
    ∀ call ∈ exchange.calls, ∀ j ∈ (progressOf before).limited,
      SameWave (config.waves (config.team assignments)) j call.idx
  ended : (progressOf log).finished.Nodup

section Law

variable {config : RunConfig} {planConfig : Option PlanConfig}
  {assignments roles : List Assignment} {waves : List (List Assignment)}
  {env : Surround} {log : List RoleExchange}

theorem progressOf_snoc (log : List RoleExchange) (exchange : RoleExchange) :
    progressOf (log ++ [exchange]) =
      (progressOf log).next exchange.op exchange.reply := by
  rw [progressOf, List.foldl_append]
  rfl

theorem next_called (g : Progress) (exchange : RoleExchange) :
    (g.next exchange.op exchange.reply).called =
      g.called ++ exchange.calls.map RoleCall.idx := by
  obtain ⟨op, reply⟩ := exchange
  cases op with
  | chat calls =>
      have hcalls : (calls.map RoleCall.chat).map RoleCall.idx =
          calls.map ChatCall.idx := List.map_map
      exact congrArg (g.called ++ ·) hcalls.symm
  | execute call => rfl
  | graphUpdate idx status =>
      unfold Progress.next
      dsimp only
      split <;> exact (List.append_nil _).symm
  | _ => exact (List.append_nil _).symm

theorem progressOf_called (log : List RoleExchange) :
    (progressOf log).called =
      (log.flatMap RoleExchange.calls).map RoleCall.idx := by
  have hfrom : ∀ g : Progress, (log.foldl (fun g exchange =>
      g.next exchange.op exchange.reply) g).called =
        g.called ++ (log.flatMap RoleExchange.calls).map RoleCall.idx := by
    induction log with
    | nil => exact fun g => (List.append_nil g.called).symm
    | cons exchange rest ih =>
        intro g
        rw [List.foldl_cons, ih, next_called, List.flatMap_cons,
          List.map_append, List.append_assoc]
  exact hfrom {}

/-- The calls of an allowed exchange may start, and are calls of different
roles. -/
theorem Allowed.calls {g : Progress} {exchange : RoleExchange}
    (h : Allowed roles waves g exchange.op) :
    (exchange.calls.map RoleCall.idx).Nodup ∧
      ∀ call ∈ exchange.calls, Starts roles waves g call.idx := by
  obtain ⟨op, reply⟩ := exchange
  cases op with
  | chat calls =>
      obtain ⟨hnodup, hstarts⟩ := h
      refine ⟨?_, fun call hcall => ?_⟩
      · rw [show (RoleExchange.calls ⟨.chat calls, reply⟩).map RoleCall.idx =
          calls.map ChatCall.idx from List.map_map]
        exact hnodup
      · obtain ⟨c, hc, rfl⟩ := List.mem_map.mp hcall
        exact hstarts c hc
  | execute call =>
      refine ⟨List.nodup_singleton _, fun other hother => ?_⟩
      rw [List.mem_singleton.mp hother]
      exact h
  | _ => exact ⟨List.nodup_nil, fun _ hin => nomatch hin⟩

theorem ScheduleLaw.nil : ScheduleLaw config assignments [] := by
  refine ⟨List.nodup_nil, ?_, ?_, List.nodup_nil⟩
  · intro before exchange rest hsplit
    exact absurd hsplit.symm (by simp)
  · intro before exchange rest hsplit
    exact absurd hsplit.symm (by simp)

theorem ScheduleLaw.snoc (h : ScheduleLaw config assignments log)
    (exchange : RoleExchange)
    (hallow : Allowed (config.team assignments)
      (config.waves (config.team assignments)) (progressOf log)
      exchange.op) : ScheduleLaw config assignments (log ++ [exchange]) := by
  obtain ⟨hnodup, hstarts⟩ := hallow.calls
  have hsplits : ∀ before other rest,
      log ++ [exchange] = before ++ other :: rest →
      (before = log ∧ other = exchange) ∨
        ∃ rest', log = before ++ other :: rest' := by
    intro before other rest hsplit
    rcases List.eq_nil_or_concat rest with rfl | ⟨rest', last, rfl⟩
    · obtain ⟨hbefore, hother⟩ := List.append_inj' hsplit rfl
      exact Or.inl ⟨hbefore.symm, (List.cons.inj hother).1.symm⟩
    · right
      refine ⟨rest', ?_⟩
      rw [List.concat_eq_append, ← List.cons_append, ← List.append_assoc]
        at hsplit
      exact (List.append_inj' hsplit rfl).1
  refine ⟨?_, ?_, ?_, ?_⟩
  · rw [List.flatMap_append, List.map_append, List.flatMap_singleton]
    apply List.nodup_append.mpr ⟨h.once, hnodup, ?_⟩
    intro i hi j hj heq
    obtain ⟨call, hcall, rfl⟩ := List.mem_map.mp hj
    apply (hstarts call hcall).first
    rw [progressOf_called, ← heq]
    exact hi
  · intro before other rest hsplit call hcall
    rcases hsplits before other rest hsplit with ⟨rfl, rfl⟩ | ⟨rest', hold⟩
    · obtain ⟨a, ha, hidx⟩ := List.mem_map.mp (hstarts call hcall).known
      have hdeps := (hstarts call hcall).deps a ha hidx
      obtain ⟨b, hb, rfl⟩ := List.mem_map.mp ha
      exact ⟨b, hb, hidx, hdeps⟩
    · exact h.ordered before other rest' hold call hcall
  · intro before other rest hsplit call hcall
    rcases hsplits before other rest hsplit with ⟨rfl, rfl⟩ | ⟨rest', hold⟩
    · exact (hstarts call hcall).within
    · exact h.stopped before other rest' hold call hcall
  · rw [progressOf_snoc]
    obtain ⟨op, reply⟩ := exchange
    cases op with
    | graphUpdate idx status =>
        unfold Progress.next
        dsimp only
        split
        · exact h.ended
        · next hstatus =>
            apply List.nodup_append.mpr ⟨h.ended, List.nodup_singleton _, ?_⟩
            intro i hi j hj heq
            apply (hallow.resolve_left hstatus)
            rw [← List.mem_singleton.mp hj, ← heq]
            exact hi
    | _ => exact h.ended

/-- Surroundings in which plan work, git and the delta of a call do not
raise. -/
structure Surround.Steady (env : Surround) : Prop extends env.Calm where
  delta : ∀ log cwd gitBefore since fingerprints,
    ∃ files, env log (.delta cwd gitBefore since fingerprints) = .ok files

theorem Surround.Steady.mild (h : env.Steady) (log : List RoleExchange)
    (op : RoleOp) : Mild op (env log op) := by
  cases op with
  | plan op => exact h.plan log op
  | git cwd => exact h.git log cwd
  | delta cwd gitBefore since fingerprints => exact h.delta log _ _ _ _
  | _ => trivial

/-- Any run keeps its schedule, raises in trouble only, returns each done role
once. -/
theorem localRun_law (config : RunConfig) (planConfig : Option PlanConfig)
    (assignments : List Assignment) (env : Surround) (calm clean : Prop)
    (hunique : (assignments.map Assignment.idx).Nodup)
    (hearlier : DependsEarlier assignments)
    (hfresh : clean → ∀ a ∈ assignments, a.Clear ∧ Unmasked a.error)
    (hserved : calm → GatesAttach config planConfig assignments →
      storePath config.planId = .ok () ∧ ∀ a ∈ assignments, a.role ≠ "")
    (hmild : calm → ∀ log op, Mild op (env log op))
    (hcandid : clean → ∀ log op, Candid op (env log op)) :
    ScheduleLaw config assignments
        (localRun config planConfig assignments env).2 ∧
      match (localRun config planConfig assignments env).1 with
      | (.ok result, run) => result = run.result ∧ ∃ base,
          Closed clean (config.team assignments) base run
      | (.error _, _) => ¬calm := by
  have hanswer : ∀ log g op,
      (g = progressOf log ∧ ScheduleLaw config assignments log) →
      Allowed (config.team assignments)
        (config.waves (config.team assignments)) g op →
      ((calm → Mild op (env.answer log op).1) ∧
        (clean → Candid op (env.answer log op).1)) ∧
      g.next op (env.answer log op).1 = progressOf (env.answer log op).2 ∧
        ScheduleLaw config assignments (env.answer log op).2 := by
    rintro log _ op ⟨rfl, hlaw⟩ hallow
    have hrelies : (calm → Mild op (env log op)) ∧
        (clean → Candid op (env log op)) :=
      ⟨fun h => hmild h log op, fun h => hcandid h log op⟩
    have hkept : progressOf (log ++ [⟨op, env log op⟩]) =
        (progressOf log).next op (env log op) := progressOf_snoc ..
    have hsnoc := hlaw.snoc ⟨op, env log op⟩ hallow
    cases op with
    | plan op => exact ⟨hrelies, rfl, hlaw⟩
    | _ => exact ⟨hrelies, hkept.symm, hsnoc⟩
  obtain ⟨g, ⟨_, hlaw⟩, hend⟩ := Prog.eval_of_wp env.answer
    (fun log g => g = progressOf log ∧ ScheduleLaw config assignments log)
    hanswer (runLocal config { assignments, planConfig }) []
    ⟨rfl, ScheduleLaw.nil⟩
    (gives_runLocal hunique hearlier hfresh hserved)
  refine ⟨hlaw, ?_⟩
  unfold localRun Script.eval
  generalize Prog.eval env.answer
    (runLocal config { assignments, planConfig }) [] = outcome at hend
  obtain ⟨⟨out, run⟩, log⟩ := outcome
  cases out with
  | ok result => exact hend
  | error e => exact hend

def returned (config : RunConfig) (planConfig : Option PlanConfig)
    (assignments : List Assignment) (env : Surround) : List Assignment :=
  match (localRun config planConfig assignments env).1.1 with
  | .ok result => result
  | .error _ => []

/-- A completed run has no role that is not ok, unless one came in marked or
hides behind an error text. -/
theorem completed_ok (config : RunConfig) (planConfig : Option PlanConfig)
    (assignments : List Assignment) (env : Surround)
    (hunique : (assignments.map Assignment.idx).Nodup)
    (hearlier : DependsEarlier assignments)
    (hfresh : ∀ a ∈ assignments, a.Clear ∧ Unmasked a.error)
    (hcandid : ∀ log op, Candid op (env log op)) (requiresCodeGen : Bool)
    (hcompleted : (evaluateMultiagentOutcome
      (returned config planConfig assignments env) requiresCodeGen).2 =
        .completed) :
    ∀ a ∈ returned config planConfig assignments env, a.ok = true := by
  obtain ⟨_, hend⟩ := localRun_law config planConfig assignments env False
    True hunique hearlier (fun _ => hfresh) (fun hfalse => hfalse.elim)
    (fun hfalse => hfalse.elim) (fun _ => hcandid)
  unfold returned at hcompleted ⊢
  generalize (localRun config planConfig assignments env).1 = outcome
    at hend hcompleted ⊢
  obtain ⟨out, run⟩ := outcome
  cases out with
  | error e => exact fun a ha => nomatch ha
  | ok result =>
      obtain ⟨rfl, base, hclosed⟩ := hend
      have hroles : ((config.team assignments).map Assignment.idx).Nodup := by
        rw [show (config.team assignments).map Assignment.idx =
          assignments.map Assignment.idx from List.map_map]
        exact hunique
      obtain ⟨_, _, hmem⟩ := hclosed.result hroles
      intro a ha
      cases hok : a.ok with
      | true => rfl
      | false =>
          -- the failure is explained by one that counts
          obtain ⟨p, hp, hfailed, hactive⟩ :=
            hclosed.explained trivial ⟨a, (hmem a).mp ha, hok⟩
          have hcounted :=
            active_of_completed hcompleted ((hmem p).mpr hp) hactive
          rw [hfailed] at hcounted
          cases hcounted

end Law

namespace RunLawRuns

open ShadowRuns

theorem plain_steady (chat : ChatCall → ChatReply)
    (execute : ExecutorCall → ExecutorReply) :
    (plain chat execute).Steady :=
  ⟨plain_calm chat execute, fun _ _ _ _ _ => ⟨[], rfl⟩⟩

theorem fine_candid (log : List RoleExchange) (op : RoleOp) :
    Candid op (fine log op) := by
  cases op with
  | plan op =>
      cases op with
      | inspect check ctx =>
          refine ⟨fun _ _ result h => ?_, fun _ _ result h => ?_⟩
          · rw [← Except.ok.inj h]
          · rw [← Except.ok.inj h]
      | _ => trivial
  | chat calls =>
      intro i
      have hreply : chatError (fine log (.chat calls) i) = "" := by
        dsimp only [fine, plain]
        split <;> rfl
      rw [hreply]
      exact empty_unmasked
  | execute call => exact empty_unmasked
  | _ => trivial

theorem team_completed_ok :
    (evaluateMultiagentOutcome (returned chatOnly none (team "") fine)
        true).2 = .completed ∧
      ∀ a ∈ returned chatOnly none (team "") fine, a.ok = true := by
  have hfresh : ∀ a ∈ team "", a.Clear ∧ Unmasked a.error := by
    intro a ha
    refine ⟨team_orderly.clear a ha, ?_⟩
    simp only [team, List.mem_cons, List.not_mem_nil, or_false] at ha
    rcases ha with rfl | rfl <;> exact empty_unmasked
  have hcompleted : (evaluateMultiagentOutcome
      (returned chatOnly none (team "") fine) true).2 = .completed := by
    decide +kernel
  exact ⟨hcompleted, completed_ok chatOnly none (team "") fine (by decide)
    team_orderly.earlier hfresh fine_candid true hcompleted⟩

def refusedReviewer : Surround :=
  plain (fun call =>
    if call.role = "reviewer" then
      .ok { error := "skipped: refused by the content filter" }
    else .ok { content := "done" }) fun _ => .error ""

def reviewTeam : List Assignment :=
  [{ idx := 0, role := "architect" },
   { idx := 1, role := "reviewer", dependsOn := [0] }]

/-- A run completes although its reviewer failed. -/
theorem refused_completed :
    ¬∀ (config : RunConfig) (planConfig : Option PlanConfig)
      (assignments : List Assignment) (env : Surround)
      (requiresCodeGen : Bool),
      (assignments.map Assignment.idx).Nodup → DependsEarlier assignments →
      (evaluateMultiagentOutcome
        (returned config planConfig assignments env) requiresCodeGen).2 =
          .completed →
      ∀ a ∈ returned config planConfig assignments env, a.ok = true := by
  intro h
  have hearlier : DependsEarlier reviewTeam := by
    intro before a after hsplit d hd
    rcases before with _ | ⟨p, _ | ⟨q, before⟩⟩
    · obtain ⟨rfl, _⟩ := List.cons.inj hsplit
      cases hd
    · obtain ⟨rfl, hrest⟩ := List.cons.inj hsplit
      obtain ⟨rfl, _⟩ := List.cons.inj hrest
      exact hd
    · have hlength := congrArg List.length hsplit
      simp only [reviewTeam, List.length_cons, List.length_nil,
        List.length_append] at hlength
      omega
  have hall := h chatOnly none reviewTeam refusedReviewer true (by decide)
    hearlier (by decide +kernel)
  have hfailed : ¬∀ a ∈ returned chatOnly none reviewTeam refusedReviewer,
      a.ok = true := by
    decide +kernel
  exact hfailed hall

end RunLawRuns

end Voly.A2A
