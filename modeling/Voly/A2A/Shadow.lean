/-
Shadow plan gates against no gates, over whole runs.
-/
import Voly.A2A.Schedule

namespace Voly.A2A

open Python Interaction StepStatus

section Waves

variable {config : RunConfig} {cfg : PlanConfig} {roles : List Assignment}
  {base : Plan} {env : Surround} {placed : List Int}

/-- The roles of a wave that run one way. -/
def runBy (f : Bool → Bool) (items : List (Bool × Prepared)) :
    List Prepared :=
  (items.filter fun item => f item.1).map Prod.snd

theorem runBy_cons (f : Bool → Bool) (item : Bool × Prepared)
    (rest : List (Bool × Prepared)) :
    runBy f (item :: rest) =
      if f item.1 then item.2 :: runBy f rest else runBy f rest := by
  unfold runBy
  rw [List.filter_cons]
  split <;> rfl

theorem twin_runBy (f : Bool → Bool) {items items' : List (Bool × Prepared)}
    (h : List.Forall₂ (TwinItem roles) items items') :
    List.Forall₂ (Twin roles) (runBy f items) (runBy f items') := by
  induction h with
  | nil => exact List.Forall₂.nil
  | cons hitem _ ih =>
      rw [runBy_cons, runBy_cons, hitem.1]
      split
      · exact List.Forall₂.cons hitem.2 ih
      · exact ih

theorem runBy_perm (items : List (Bool × Prepared)) :
    (items.map itemIdx).Perm
      ((runBy id items).map (fun p => p.assignment.idx) ++
        (runBy not items).map fun p => p.assignment.idx) := by
  have hsplit := List.filter_append_perm (fun item => item.1) items
  have hidx : ∀ f : Bool → Bool,
      (runBy f items).map (fun p => p.assignment.idx) =
        (items.filter fun item => f item.1).map itemIdx :=
    fun f => List.map_map
  rw [hidx, hidx, ← List.map_append]
  exact (hsplit.map itemIdx).symm

theorem runWave_coupled (henv : env.Calm)
    (hbase : Mirrored config cfg roles base) {wave : List Assignment}
    (hwave : WaveReady roles placed [] wave) :
    Coupled env.answer (Sound config cfg roles)
      (Mirrors roles base placed [])
      (fun r r' s t log => r' = r ∧
        Mirrors roles base ((wave.map Assignment.idx).reverse ++ placed) []
          s t log)
      (runWave config wave) (runWave config wave) := by
  unfold runWave
  apply Coupled.seq sound_back (startRoles_coupled henv hbase wave hwave)
  intro items items'
  apply Coupled.of_pre fun s t log h => h.1
  intro htwins
  have hchats := twin_runBy not htwins
  have hexecs := twin_runBy id htwins
  have hflight : (items.map itemIdx ++ []).Perm
      ((runBy id items).map (fun p : Prepared => p.assignment.idx) ++
        (runBy not items).map fun p : Prepared => p.assignment.idx) := by
    rw [List.append_nil]
    exact runBy_perm items
  apply Coupled.seq sound_back
    ((chatCalls_coupled hchats).mono (fun s t log h => h.2.perm hflight)
      fun _ _ _ _ _ h => h)
  intro replies replies'
  apply Coupled.of_pre fun s t log h => And.intro h.1 h.2.1
  rintro ⟨hreplies, hidx⟩
  have hkeep : ∀ log op, AllReplied replies log →
      AllReplied replies (env.answer log op).2 :=
    fun log op hall item hitem =>
      (hall item hitem).mono (answer_subset env log op)
  apply Coupled.seq sound_back
    (((runExecutors_coupled henv hbase hexecs).frame hkeep).mono
      (fun s t log h => ⟨h.2.2.2, h.2.2.1⟩) fun _ _ _ _ _ h => h)
  intro _ _
  apply (finalizeChats_coupled henv hbase hreplies).mono
  · rintro s t log ⟨h, hall⟩
    rw [List.append_nil, hidx]
    exact ⟨h, hall⟩
  · exact fun _ _ _ _ _ h => h

/-- At the end of the waves the plan can be stored, if there is one. -/
def Closable (s t : LocalRun) : Prop :=
  s.plan = none ∧
    ∀ plan, t.plan = some plan → storePath plan.planId = .ok ()

theorem Mirrors.closable {flight : List Int} {s t : LocalRun}
    {log : List RoleExchange} (hbase : Mirrored config cfg roles base)
    (h : Mirrors roles base placed flight s t log) : Closable s t := by
  refine ⟨h.off.1, fun plan hplan => ?_⟩
  rcases h.gates with ⟨hnone, _⟩ | ⟨_, _, plan', hplan', htracks⟩
  · rw [hnone] at hplan
    cases hplan
  · rw [hplan'] at hplan
    obtain rfl := Option.some.inj hplan
    rw [htracks.planId]
    exact hbase.storable

theorem markRest_plan (response : ChatResponse) (run : LocalRun) :
    (markRest response run).plan = run.plan := by
  apply List.foldlRecOn (motive := fun r : LocalRun => r.plan = run.plan)
  · rfl
  · intro r h a _
    rw [← h]
    split <;> rfl

theorem walkWaves_coupled (henv : env.Calm)
    (hbase : Mirrored config cfg roles base)
    {waves : List (List Assignment)} (h : Scheduled roles placed waves) :
    Coupled env.answer (Sound config cfg roles)
      (Mirrors roles base placed []) (fun _ _ s t _ => Closable s t)
      (walkWaves config waves) (walkWaves config waves) := by
  induction h with
  | nil => exact Coupled.ret fun s t log h _ => h.closable hbase
  | cons hwave _ ih =>
      unfold walkWaves
      apply Coupled.seq sound_back (runWave_coupled henv hbase hwave)
      intro stop stop'
      apply Coupled.of_pre fun s t log h => h.1
      rintro rfl
      cases stop' with
      | none => exact ih.mono (fun s t log h => h.2) fun _ _ _ _ _ h => h
      | some response =>
          apply Coupled.update
          rintro s t log ⟨_, h⟩ _
          obtain ⟨hoff, hplan⟩ := h.closable hbase
          refine ⟨by rw [markRest_plan, hoff], fun plan => ?_⟩
          rw [markRest_plan]
          exact hplan plan

theorem closePlan_coupled (henv : env.Calm) :
    Coupled env.answer (Sound config cfg roles)
      (fun s t _ => Closable s t) (fun _ _ _ _ _ => True)
      closePlan closePlan := by
  apply Coupled.both sound_back
  rintro s t log ⟨hoff, hplan⟩ _
  have hs : Script.eval env.answer closePlan s log = ((.ok (), s), log) := by
    unfold closePlan
    rw [Script.eval_bind_ok env.answer (Script.eval_read env.answer s log),
      hoff]
    rfl
  cases hcase : t.plan with
  | none =>
      have ht : Script.eval env.answer closePlan t log =
          ((.ok (), t), log) := by
        unfold closePlan
        rw [Script.eval_bind_ok env.answer (Script.eval_read env.answer t log),
          hcase]
        rfl
      exact ⟨_, _, _, _, _, hs, ht, trivial⟩
  | some plan =>
      have hclose : Script.Gives (stepProtocol True False) True
          (do
            Script.update recomputePlanStatus
            storeSave)
          (fun _ _ _ => True) plan () := by
        apply Script.Gives.update
        apply gives_storeSave
        · intro _
          rw [recomputePlanStatus_planId]
          exact hplan plan hcase
        · exact fun _ => trivial
      obtain ⟨_, plan', heval, _⟩ := eval_onPlan henv hclose t log
      have ht : Script.eval env.answer closePlan t log =
          ((.ok (), { t with plan := some plan' }), log) := by
        unfold closePlan
        rw [Script.eval_bind_ok env.answer (Script.eval_read env.answer t log),
          hcase]
        exact heval
      exact ⟨_, _, _, _, _, hs, ht, trivial⟩

theorem runWaves_coupled (henv : env.Calm)
    (hbase : Mirrored config cfg roles base) (hroles : Orderly roles) :
    Coupled env.answer (Sound config cfg roles)
      (Mirrors roles base [] []) (fun _ _ _ _ _ => True)
      (runWaves config) (runWaves config) := by
  unfold runWaves
  apply Coupled.seq sound_back
    (Q := fun run run' s t log => run.assignments = roles ∧
      run'.assignments = roles ∧ Mirrors roles base [] [] s t log)
    (Coupled.read fun s t log h _ =>
      ⟨h.assignments.1, h.assignments.2, h⟩)
  intro run run'
  apply Coupled.of_pre fun s t log h => And.intro h.1 h.2.1
  rintro ⟨hrun, hrun'⟩
  have hwaves : Scheduled roles []
      (if config.useParallel then buildWaves roles
        else roles.map fun a => [a]) :=
    (layered_waves config hroles.unique hroles.earlier).scheduled hroles.clear
  rw [hrun, hrun']
  apply Coupled.seq sound_back
    ((walkWaves_coupled henv hbase hwaves).mono (fun s t log h => h.2.2)
      fun _ _ _ _ _ h => h)
  intro _ _
  apply Coupled.seq sound_back (closePlan_coupled henv)
  intro _ _
  apply Coupled.seq sound_back (Q := fun _ _ _ _ _ => True)
    (Coupled.read fun _ _ _ _ _ => trivial)
  intro _ _
  exact Coupled.ret fun _ _ _ _ _ => trivial

end Waves

section Setup

variable {config : RunConfig} {cfg : PlanConfig} {off : Option PlanConfig}
  {assignments : List Assignment} {env : Surround} {run : LocalRun}
  {a : Assignment} {log : List RoleExchange}

theorem runMode_mem (config : RunConfig) (a : Assignment) :
    (runMode config a).1 = "chat" ∨ (runMode config a).1 = "executor" := by
  unfold runMode resolveRoleMode
  dsimp only
  split_ifs with _ _ hlead <;> simp_all

/-- A map written for each assignment of a list. -/
def writeAll {B : Type} (f : Assignment → B) (l : List Assignment)
    (m : Int → Option B) : Int → Option B :=
  l.foldl (fun m a => Function.update m a.idx (some (f a))) m

section

variable {B : Type} (f : Assignment → B) (l : List Assignment)
  (m : Int → Option B)

theorem writeAll_notMem {i : Int} (hi : i ∉ l.map Assignment.idx) :
    writeAll f l m i = m i := by
  induction l generalizing m with
  | nil => rfl
  | cons b rest ih =>
      rw [List.map_cons, List.mem_cons, not_or] at hi
      have hrest := ih (Function.update m b.idx (some (f b))) hi.2
      rw [Function.update_of_ne hi.1] at hrest
      exact hrest

theorem writeAll_mem (hnodup : (l.map Assignment.idx).Nodup) (ha : a ∈ l) :
    writeAll f l m a.idx = some (f a) := by
  induction l generalizing m with
  | nil => cases ha
  | cons b rest ih =>
      rw [List.map_cons, List.nodup_cons] at hnodup
      rcases List.mem_cons.mp ha with rfl | ha
      · have hlast := writeAll_notMem f rest
          (Function.update m a.idx (some (f a))) hnodup.1
        rw [Function.update_self] at hlast
        exact hlast
      · exact ih (Function.update m b.idx (some (f b))) hnodup.2 ha

end

theorem setModes_roleModes
    (hnodup : (run.assignments.map Assignment.idx).Nodup)
    (ha : a ∈ (setModes config run).assignments) :
    (setModes config run).roleModes a.idx = some (runMode config a).1 := by
  obtain ⟨b, hb, rfl⟩ := List.mem_map.mp ha
  have hmode := writeAll_mem (fun b => (runMode config b).1) run.assignments
    run.roleModes hnodup hb
  exact hmode

theorem mirroredMode_eq {roleModes : Int → Option String}
    (h : roleModes a.idx = some (runMode config a).1) :
    mirroredMode roleModes a = (runMode config a).1 := by
  unfold mirroredMode
  rw [h]
  rcases runMode_mem config a with hmode | hmode <;> rw [hmode] <;> rfl

theorem mem_dependencyIds {roles : List Assignment} {dep : String}
    (h : dep ∈ dependencyIds roles a) :
    ∃ p ∈ roles, p.idx ∈ a.dependsOn ∧ dep = p.stepId := by
  obtain ⟨d, hd, hfind⟩ := List.mem_filterMap.mp h
  obtain ⟨p, hp, rfl⟩ := Option.map_eq_some_iff.mp hfind
  have hidx : p.idx = d := by
    simpa using List.find?_some hp
  refine ⟨p, List.mem_reverse.mp (List.mem_of_find?_eq_some hp), ?_, ?_⟩
  · rw [hidx]
    exact hd
  · unfold Assignment.stepId
    rw [hidx]

theorem mirrored_mirrorPlan (run : LocalRun)
    (hunique : (run.assignments.map Assignment.idx).Nodup)
    (hnames : ∀ a ∈ run.assignments, a.role ≠ "")
    (hstore : storePath config.planId = .ok ()) (cfg : PlanConfig) :
    Mirrored config cfg (setModes config run).assignments
      (mirrorPlan config (setModes config run) cfg) := by
  have hids : (mirrorPlan config (setModes config run) cfg).ids =
      (setModes config run).assignments.map fun a =>
        assignmentStepId a.idx (orElse a.role "developer") := List.map_map
  have hid : ∀ a ∈ (setModes config run).assignments,
      assignmentStepId a.idx (orElse a.role "developer") = a.stepId := by
    intro a ha
    obtain ⟨b, hb, rfl⟩ := List.mem_map.mp ha
    have hname : (b.resolveMode config).role ≠ "" := hnames b hb
    unfold orElse Assignment.stepId
    rw [if_neg hname]
  have hmodes : ((setModes config run).assignments.map
      Assignment.idx).Nodup := by
    have hsame : (setModes config run).assignments.map Assignment.idx =
        run.assignments.map Assignment.idx := List.map_map
    rw [hsame]
    exact hunique
  have hnodup : (mirrorPlan config (setModes config run) cfg).ids.Nodup := by
    rw [hids]
    exact List.Pairwise.map _ (fun a b hne heq =>
      hne (assignmentStepId_idx heq)) (List.pairwise_map.mp hmodes)
  refine ⟨hnodup, hstore, ?_, ?_⟩
  · intro a ha b hb
    constructor
    · exact fun heq => assignmentStepId_idx heq
    · intro heq
      rw [List.inj_on_of_nodup_map hmodes ha hb heq]
  · intro a ha
    have hmode := mirroredMode_eq (setModes_roleModes hunique ha)
    refine ⟨assignmentStep config.task (setModes config run).assignments cfg
      (setModes config run).roleModes a, ?_, rfl, rfl, ?_,
      fun dep hdep => mem_dependencyIds hdep⟩
    · have hmem : assignmentStep config.task
          (setModes config run).assignments cfg
          (setModes config run).roleModes a ∈
            (mirrorPlan config (setModes config run) cfg).steps :=
        List.mem_map_of_mem ha
      have hget := Plan.getStep?_of_mem _ hnodup hmem
      rw [← hid a ha]
      exact hget
    · obtain ⟨b, hb, rfl⟩ := List.mem_map.mp ha
      have hname : (b.resolveMode config).role ≠ "" := hnames b hb
      unfold roleAcceptance
      rw [← hmode]
      simp only [assignmentStep, orElse, if_neg hname]

theorem DependsEarlier.modes (h : DependsEarlier assignments)
    (config : RunConfig) :
    DependsEarlier (assignments.map (Assignment.resolveMode config)) := by
  intro before a after hsplit
  obtain ⟨before', rest, rfl, rfl, hrest⟩ := List.map_eq_append_iff.mp hsplit
  obtain ⟨b, after', rfl, rfl, rfl⟩ := List.map_eq_cons_iff.mp hrest
  rw [show (before'.map (Assignment.resolveMode config)).map Assignment.idx =
    before'.map Assignment.idx from List.map_map]
  exact h before' b after' rfl

theorem Orderly.modes (h : Orderly assignments) (config : RunConfig) :
    Orderly (assignments.map (Assignment.resolveMode config)) := by
  refine ⟨?_, h.earlier.modes config, ?_⟩
  · rw [show (assignments.map (Assignment.resolveMode config)).map
      Assignment.idx = assignments.map Assignment.idx from List.map_map]
    exact h.unique
  · intro a ha
    obtain ⟨b, hb, rfl⟩ := List.mem_map.mp ha
    exact h.clear b hb

theorem Undisturbed.modes (h : Undisturbed config cfg assignments log) :
    Undisturbed config cfg
      (assignments.map (Assignment.resolveMode config)) log := by
  constructor
  · intro a ha
    obtain ⟨b, hb, rfl⟩ := List.mem_map.mp ha
    exact h.started b hb
  · intro a ha
    obtain ⟨b, hb, rfl⟩ := List.mem_map.mp ha
    exact h.nonempty b hb

/-- A run before its first wave, and without plan gates. -/
def openRun (config : RunConfig) (planConfig : Option PlanConfig)
    (assignments : List Assignment) : LocalRun :=
  setModes config { assignments, planConfig }

theorem eval_setup (config : RunConfig) (planConfig : Option PlanConfig)
    (assignments : List Assignment) :
    Script.eval env.answer (setupPlanAndModes config)
        { assignments, planConfig } [] =
      Script.eval env.answer (attachPlan config)
        (openRun config planConfig assignments)
        [⟨.applyExclusions, env [] .applyExclusions⟩] := by
  unfold setupPlanAndModes
  rw [Script.eval_bind_ok env.answer (Script.eval_ask env.answer _ _ _),
    Script.eval_bind_ok env.answer (Script.eval_update env.answer _ _ _)]
  rfl

theorem eval_attachPlan_off (hoff : planGatesEnabled run.planConfig = false) :
    Script.eval env.answer (attachPlan config) run log =
      ((.ok (), run), log) := by
  unfold attachPlan
  rw [Script.eval_bind_ok env.answer (Script.eval_read env.answer run log)]
  cases hcase : run.planConfig with
  | none => rfl
  | some cfg =>
      rw [hcase] at hoff
      dsimp only
      rw [hoff]
      rfl

theorem Mirrored.tracks {roles : List Assignment} {base plan : Plan}
    (h : Mirrored config cfg roles base) (hplanId : plan.planId = base.planId)
    (hsteps : plan.steps = base.steps) : Tracks roles base [] [] log plan := by
  refine ⟨hplanId, by rw [Plan.ids, hsteps]; rfl, fun a ha => ?_⟩
  obtain ⟨step, hget, hpending, hlog, _, _⟩ := h.built a ha
  refine ⟨step, step, hget, ?_, SameShape.rfl, fun _ => ⟨hpending, hlog⟩,
    fun hin => absurd hin List.not_mem_nil,
    fun hin => absurd hin List.not_mem_nil⟩
  rw [Plan.getStep?, hsteps]
  exact hget

theorem mirrors_start {roles : List Assignment} {base : Plan} {s t : LocalRun}
    (hs : s.assignments = roles ∧ s.done = [] ∧ s.plan = none ∧
      s.gatesOn = false)
    (ht : t.assignments = roles ∧ t.done = [] ∧ t.roleModes = s.roleModes ∧
      t.degradedNotes = s.degradedNotes)
    (hgates : t.plan = none ∧ t.gatesOn = false ∨
      t.gatesOn = true ∧ t.planMode = "shadow" ∧ ∃ plan,
        t.plan = some plan ∧ Tracks roles base [] [] log plan) :
    Mirrors roles base [] [] s t log := by
  obtain ⟨hassigned, hdone, hoff⟩ := hs
  obtain ⟨hassigned', hdone', hmodes, hnotes⟩ := ht
  refine ⟨by rw [hdone, hdone'], ⟨hassigned, hassigned'⟩, hmodes, hnotes,
    hoff, fun i => ?_, List.nodup_nil, List.Subset.refl [], hgates⟩
  rw [hdone]
  constructor
  · rintro ⟨p, hp, _⟩
    cases hp
  · rintro ⟨hin, _⟩
    cases hin

theorem eval_attachPlan_invalid {e : PyError}
    (hcfg : run.planConfig = some cfg)
    (hon : planGatesEnabled (some cfg) = true)
    (hvalid : validate (mirrorPlan config run cfg) = .error e) :
    Script.eval env.answer (attachPlan config) run log =
      ((.ok (), { run with planMode := lower (orElse cfg.mode "shadow") }),
        log) := by
  obtain ⟨_, planConfig, _, _, _, _, _, _⟩ := run
  obtain rfl : planConfig = some cfg := hcfg
  unfold attachPlan
  rw [Script.eval_bind_ok env.answer (Script.eval_read env.answer _ log)]
  dsimp only
  rw [hon, if_pos rfl, hvalid]
  rfl

theorem eval_attachPlan_valid (henv : env.Calm)
    (hcfg : run.planConfig = some cfg)
    (hon : planGatesEnabled (some cfg) = true)
    (hvalid : validate (mirrorPlan config run cfg) = .ok ())
    (hstore : storePath config.planId = .ok ()) (log : List RoleExchange) :
    ∃ now, Script.eval env.answer (attachPlan config) run log =
      ((.ok (), { run with
        plan := some ((mirrorPlan config run cfg).stamped now)
        planMode := lower (orElse cfg.mode "shadow")
        gatesOn := true }), log) := by
  have hsave : Script.Gives (stepProtocol True False) True storeSave
      (fun _ plan' _ => ∃ now,
        plan' = (mirrorPlan config run cfg).stamped now)
      (mirrorPlan config run cfg) () :=
    gives_storeSave (fun _ => hstore) fun now => ⟨now, rfl⟩
  obtain ⟨_, plan', heval, now, rfl⟩ := eval_onPlan henv hsave
    { run with
      plan := some (mirrorPlan config run cfg)
      planMode := lower (orElse cfg.mode "shadow")
      gatesOn := true } log
  refine ⟨now, ?_⟩
  obtain ⟨_, planConfig, _, _, _, _, _, _⟩ := run
  obtain rfl : planConfig = some cfg := hcfg
  unfold attachPlan
  rw [Script.eval_bind_ok env.answer (Script.eval_read env.answer _ log)]
  dsimp only
  rw [hon, if_pos rfl, hvalid]
  dsimp only
  rw [Script.eval_bind_ok env.answer (Script.eval_update env.answer _ _ log),
    heval]

/-- The shadow run with its plan attached or invalid, beside the plain run. -/
theorem attachPlan_mirrors (off : Option PlanConfig) (henv : env.Calm)
    (hroles : Orderly assignments) (hnames : ∀ a ∈ assignments, a.role ≠ "")
    (hstore : storePath config.planId = .ok ())
    (hmode : lower cfg.mode = "shadow") (log : List RoleExchange) :
    ∃ t base, Script.eval env.answer (attachPlan config)
        (openRun config (some cfg) assignments) log = ((.ok (), t), log) ∧
      Mirrored config cfg
        (assignments.map (Assignment.resolveMode config)) base ∧
      Mirrors (assignments.map (Assignment.resolveMode config)) base [] []
        (openRun config off assignments) t log := by
  have hbase := mirrored_mirrorPlan
    { assignments, planConfig := some cfg } hroles.unique hnames hstore cfg
  have hnonempty : cfg.mode ≠ "" := by
    intro hnone
    rw [hnone] at hmode
    exact absurd hmode (by decide)
  have hshadow : lower (orElse cfg.mode "shadow") = "shadow" := by
    rw [orElse, if_neg hnonempty, hmode]
  cases hon : planGatesEnabled (some cfg) with
  | false =>
      exact ⟨_, _, eval_attachPlan_off hon, hbase,
        mirrors_start ⟨rfl, rfl, rfl, rfl⟩ ⟨rfl, rfl, rfl, rfl⟩
          (Or.inl ⟨rfl, rfl⟩)⟩
  | true =>
      cases hvalid : validate (mirrorPlan config
          (openRun config (some cfg) assignments) cfg) with
      | error e =>
          exact ⟨_, _, eval_attachPlan_invalid rfl hon hvalid, hbase,
            mirrors_start ⟨rfl, rfl, rfl, rfl⟩ ⟨rfl, rfl, rfl, rfl⟩
              (Or.inl ⟨rfl, rfl⟩)⟩
      | ok _ =>
          obtain ⟨now, heval⟩ := eval_attachPlan_valid henv rfl hon hvalid
            hstore log
          exact ⟨_, _, heval, hbase,
            mirrors_start ⟨rfl, rfl, rfl, rfl⟩ ⟨rfl, rfl, rfl, rfl⟩
              (Or.inr ⟨rfl, hshadow, _, rfl, hbase.tracks rfl rfl⟩)⟩

/-- Shadow gates exchange what the run without gates does, as long as no role
starts after a dependency fell, and only roles without checks reply with
nothing. -/
theorem localRun_shadow_eq (off : Option PlanConfig)
    (hoff : planGatesEnabled off = false) (hmode : lower cfg.mode = "shadow")
    (hroles : Orderly assignments) (hnames : ∀ a ∈ assignments, a.role ≠ "")
    (hstore : storePath config.planId = .ok ()) (henv : env.Calm)
    (hrun : Undisturbed config cfg assignments
      (localRun config off assignments env).2) :
    (localRun config (some cfg) assignments env).2 =
      (localRun config off assignments env).2 := by
  obtain ⟨t, base, heval, hbase, hmirrors⟩ := attachPlan_mirrors off henv
    hroles hnames hstore hmode
    [⟨.applyExclusions, env [] .applyExclusions⟩]
  have hs : localRun config off assignments env =
      Script.eval env.answer (runWaves config)
        (openRun config off assignments)
        [⟨.applyExclusions, env [] .applyExclusions⟩] :=
    Script.eval_bind_ok env.answer
      ((eval_setup config off assignments).trans (eval_attachPlan_off hoff))
  have ht : localRun config (some cfg) assignments env =
      Script.eval env.answer (runWaves config) t
        [⟨.applyExclusions, env [] .applyExclusions⟩] :=
    Script.eval_bind_ok env.answer
      ((eval_setup config (some cfg) assignments).trans heval)
  rw [hs] at hrun ⊢
  rw [ht]
  exact (runWaves_coupled henv hbase (hroles.modes config) _ t _ hmirrors
    hrun.modes).1

end Setup

namespace ShadowRuns

/-- The surroundings in which every question but the calls gets the plain
reply. -/
def plain (chat : ChatCall → ChatReply)
    (execute : ExecutorCall → ExecutorReply) : Surround := fun _ op =>
  match op with
  | .plan op => calm { success := true } op
  | .git _ => .ok []
  | .fingerprints _ _ => []
  | .wallTime => (0 : Rat)
  | .delta _ _ _ _ => .ok []
  | .gitEvidence _ _ | .skills _ _ _ | .projectContext _ => ""
  | .memorySearch _ => ("", 0)
  | .chat calls => fun i =>
      match calls[i]? with
      | some call => chat call
      | none => .error ""
  | .execute call => execute call
  | .applyExclusions | .excludeProvider _ _ | .remember _ _ _ _ _
  | .graphUpdate _ _ | .heartbeat _ _ | .roleEvidence _ => ()

theorem bare_pathsWhere (cwd : String) (found : Bool) (rels : List String)
    (e : PyError) :
    pathsWhere Surroundings.bare cwd found rels ≠ .error (.raised e) := by
  induction rels with
  | nil => exact fun h => nomatch h
  | cons rel rest ih =>
      unfold pathsWhere existsUnder
      by_cases hcwd : cwd = ""
      · rw [if_pos hcwd]
        exact fun h => nomatch h
      · rw [if_neg hcwd]
        dsimp only [Surroundings.bare]
        intro h
        split at h
        · next fault hfault =>
            obtain rfl := Except.error.inj h
            exact ih hfault
        · cases h

theorem bare_checkPaths (type need label key success : String) (bad : Bool)
    (check : AcceptanceCheck) (ctx : VerifyContext) :
    ∃ result, checkPaths type need label key success bad Surroundings.bare
      check ctx = .ok result := by
  unfold checkPaths
  split
  · exact ⟨_, rfl⟩
  · cases hcase : pathsWhere Surroundings.bare ctx.cwd bad check.paths with
    | error fault =>
        cases fault with
        | escapes message => exact ⟨_, rfl⟩
        | raised e => exact absurd hcase (bare_pathsWhere _ _ _ e)
    | ok hits =>
        dsimp only
        split <;> exact ⟨_, rfl⟩

theorem bare_gitAfter (ctx : VerifyContext) :
    ∃ gitAfter, resolveGitAfter Surroundings.bare ctx = .ok gitAfter := by
  unfold resolveGitAfter gitPorcelain
  split_ifs <;> exact ⟨_, rfl⟩

theorem bare_runCheck (check : AcceptanceCheck) (ctx : VerifyContext) :
    ∃ result, runCheck Surroundings.bare check ctx = .ok result := by
  obtain ⟨gitAfter, hgit⟩ := bare_gitAfter ctx
  unfold runCheck
  split
  · exact ⟨_, rfl⟩
  · exact bare_checkPaths ..
  · exact bare_checkPaths ..
  · unfold checkGitDiffNonempty
    rw [hgit]
    dsimp only
    split_ifs <;> exact ⟨_, rfl⟩
  · unfold checkGitDiffContains
    rw [hgit]
    dsimp only [Surroundings.bare]
    split_ifs <;> exact ⟨_, rfl⟩
  all_goals exact ⟨_, rfl⟩

theorem plain_calm (chat : ChatCall → ChatReply)
    (execute : ExecutorCall → ExecutorReply) : (plain chat execute).Calm where
  plan _ op := by
    cases op with
    | save plan => rfl
    | git cwd => exact ⟨[], rfl⟩
    | inspect check ctx => exact bare_runCheck check ctx
    | _ => trivial
  git _ _ := ⟨[], rfl⟩

/-- An architect and the developer that waits for it. -/
def team (mode : String) : List Assignment :=
  [{ idx := 0, role := "architect", description := "plan"
     execution := mode },
   { idx := 1, role := "developer", description := "build", dependsOn := [0]
     execution := mode }]

def called (calls : List RoleCall) : List String :=
  calls.map fun call =>
    match call with
    | .chat call => call.role
    | .execute call => call.role

def chatOnly : RunConfig := { hybridCodeGen := false, taskId := "t" }

def lenient : PlanConfig :=
  { enabled := true, mode := "shadow", chatRequireOutput := false }

def fine : Surround :=
  plain (fun _ => .ok { content := "done" }) fun _ => .error ""

/-- The tracker was told the status in this exchange. -/
def shows (idx : Int) (status : NodeStatus) (exchange : RoleExchange) : Bool :=
  match exchange.op with
  | .graphUpdate i shown => i = idx ∧ shown = status
  | _ => false

theorem any_shows {idx : Int} {status : NodeStatus}
    {log : List RoleExchange} (h : Shown idx status log) :
    log.any (shows idx status) = true := by
  obtain ⟨exchange, hmem, hop⟩ := h
  refine List.any_eq_true.mpr ⟨exchange, hmem, ?_⟩
  unfold shows
  rw [hop]
  exact decide_eq_true ⟨rfl, rfl⟩

theorem team_orderly : Orderly (team "") := by
  refine ⟨by decide, ?_, ?_⟩
  · intro before a after hsplit d hd
    rcases before with _ | ⟨p, _ | ⟨q, before⟩⟩
    · obtain ⟨rfl, _⟩ := List.cons.inj hsplit
      cases hd
    · obtain ⟨rfl, hrest⟩ := List.cons.inj hsplit
      obtain ⟨rfl, _⟩ := List.cons.inj hrest
      exact hd
    · have hlength := congrArg List.length hsplit
      simp only [team, List.length_cons, List.length_nil, List.length_append]
        at hlength
      omega
  · intro a ha
    have hnone : a.planStatus = "" := by
      simp only [team, List.mem_cons, List.not_mem_nil, or_false] at ha
      rcases ha with rfl | rfl <;> rfl
    unfold Assignment.Clear
    rw [hnone]
    decide

theorem team_named : ∀ a ∈ team "", a.role ≠ "" := by
  intro a ha
  simp only [team, List.mem_cons, List.not_mem_nil, or_false] at ha
  rcases ha with rfl | rfl <;> decide

/-- In a run without a fall every role that is started stands on its prior
roles. -/
theorem fine_undisturbed : Undisturbed chatOnly lenient (team "")
    (localRun chatOnly none (team "") fine).2 := by
  have hclean : ∀ d, d = (0 : Int) → ¬Fell d
      (localRun chatOnly none (team "") fine).2 := by
    rintro d rfl hfell
    have hshown : ∀ status ∈ [NodeStatus.blocked, .failed],
        (localRun chatOnly none (team "") fine).2.any (shows 0 status) =
          false := by
      decide +kernel
    rcases hfell with hblocked | ⟨hfailed, _⟩
    · have hany := any_shows hblocked
      rw [hshown _ (by decide)] at hany
      cases hany
    · have hany := any_shows hfailed
      rw [hshown _ (by decide)] at hany
      cases hany
  constructor
  · intro a ha _ d hd
    apply hclean d
    simp only [team, List.mem_cons, List.not_mem_nil, or_false] at ha
    rcases ha with rfl | rfl
    · cases hd
    · exact List.mem_singleton.mp hd
  · intro a ha _ _ _
    simp only [team, List.mem_cons, List.not_mem_nil, or_false] at ha
    rcases ha with rfl | rfl <;> decide

def emptyArchitect : Surround :=
  plain (fun call =>
    .ok { content := if call.role = "architect" then "" else "done" })
    fun _ => .error ""

/-- The architect's executor writes a file and still fails. -/
def brokenArchitect : Surround :=
  plain (fun _ => .ok {}) fun call =>
    .ok (.dict "plan" (some (decide (call.role ≠ "architect"))) ""
      ["plan.md"] "")

def executors : RunConfig :=
  { taskId := "t"
    cwd := "repo"
    executorRunner := true
    registry :=
      [{ id := "architect", mode := "executor" },
       { id := "developer", mode := "executor" }] }

def gates : PlanConfig := { enabled := true, mode := "shadow" }

end ShadowRuns

end Voly.A2A
