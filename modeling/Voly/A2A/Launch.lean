/-
Starting roles in tandem: the cascade and the shadow gate decide alike as long
as no prior role fell.
-/
import Voly.A2A.Tandem

namespace Voly.A2A

open Python Interaction StepStatus

section Start

variable {config : RunConfig} {cfg : PlanConfig} {roles : List Assignment}
  {base : Plan} {env : Surround} {placed flight : List Int}
  {s t : LocalRun} {log : List RoleExchange} {a b : Assignment}

theorem prior?_congr (h : t.done = s.done) (d : Int) :
    t.prior? d = s.prior? d := by
  unfold LocalRun.prior?
  rw [h]

theorem cascade_congr (hdone : t.done = s.done)
    (hmodes : t.roleModes = s.roleModes) :
    cascade config t a = cascade config s a := by
  have hpriors : t.priors a = s.priors a :=
    List.filterMap_congr fun d _ => prior?_congr hdone d
  unfold cascade
  rw [hpriors, hdone, hmodes]

theorem Mirrors.cascade (h : Mirrors roles base placed flight s t log)
    (config : RunConfig) (a : Assignment) :
    cascade config t a = cascade config s a := by
  rw [← cascade_core config t, ← cascade_core config s]
  exact cascade_congr h.done h.modes

theorem Mirrors.priors (h : Mirrors roles base placed flight s t log)
    (hab : b.core = a.core) :
    (t.priors b).map Assignment.core = (s.priors a).map Assignment.core := by
  rw [← priors_core t, ← priors_core s, hab]
  exact List.filterMap_congr fun d _ => prior?_congr h.done d

theorem Mirrors.prompt (h : Mirrors roles base placed flight s t log)
    (hab : b.core = a.core) :
    buildPrompt config (t.priors b) (t.degradedNotes b.idx) b =
      buildPrompt config (s.priors a) (s.degradedNotes a.idx) a := by
  have hidx : b.idx = a.idx := of_core hab Assignment.idx fun _ => rfl
  rw [← buildPrompt_core config b, ← buildPrompt_core config a,
    h.priors hab, h.notes, hidx, hab]

def Returns {A : Type} (env : Surround) (x : HelperScript A) : Prop :=
  ∀ log, ∃ a log', Script.eval env.answer x () log = ((.ok a, ()), log')

section Returns

variable {A B : Type}

theorem Returns.pure (x : A) : Returns env (Pure.pure x) :=
  fun log => ⟨x, log, rfl⟩

theorem Returns.ask (op : RoleOp) : Returns env (Script.ask op) :=
  fun _ => ⟨_, _, rfl⟩

theorem Returns.bind {x : HelperScript A} {f : A → HelperScript B}
    (hx : Returns env x) (hf : ∀ a, Returns env (f a)) :
    Returns env (x >>= f) := by
  intro log
  obtain ⟨a, log', heval⟩ := hx log
  rw [Script.eval_bind_ok env.answer heval]
  exact hf a log'

theorem Returns.askIf {c : Prop} [Decidable c] {x : HelperScript A}
    {default : A} (hx : Returns env x) : Returns env (askIf c x default) := by
  unfold A2A.askIf
  split
  · exact hx
  · exact Returns.pure default

theorem gitSnapshot_returns (henv : env.Calm) :
    Returns env (gitSnapshot config) := by
  apply Returns.askIf
  intro log
  obtain ⟨status, hgit⟩ := henv.git log config.cwd
  have hreply : (env.answer log (.git config.cwd)).1 = .ok status := hgit
  refine ⟨status, (env.answer log (.git config.cwd)).2, ?_⟩
  rw [Script.eval_askOk, hreply]
  rfl

theorem buildPrompt_returns (config : RunConfig) (henv : env.Calm)
    (priors : List Assignment) (failed : Option (List String)) (a : Assignment) :
    Returns env (buildPrompt config priors failed a) := by
  apply Returns.bind (gitSnapshot_returns henv)
  intro _
  apply Returns.bind (Returns.askIf (Returns.ask _))
  intro _
  apply Returns.bind (Returns.askIf (Returns.ask _))
  rintro ⟨_, _⟩
  apply Returns.bind (Returns.askIf (Returns.ask _))
  intro _
  apply Returns.bind (Returns.askIf (Returns.ask _))
  intro _
  exact Returns.pure _

end Returns

/-- What the sound worlds are: no role started after a fall so far. -/
abbrev Sound (config : RunConfig) (cfg : PlanConfig)
    (roles : List Assignment) : List RoleExchange → Prop :=
  Undisturbed config cfg roles

theorem sound_back (log : List RoleExchange) (op : RoleOp)
    (h : Sound config cfg roles (env.answer log op).2) :
    Sound config cfg roles log :=
  h.mono (answer_subset env log op)

/-- One prepared role on both sides. -/
structure Twin (roles : List Assignment) (p p' : Prepared) : Prop where
  core : p'.assignment.core = p.assignment.core
  user : p'.user = p.user
  system : p'.system = p.system
  gitBefore : p'.gitBefore = p.gitBefore
  clear : p.assignment.Clear
  clear' : p'.assignment.Clear
  role : ∃ role ∈ roles, role.idx = p.assignment.idx ∧
    role.role = p.assignment.role

/-- One started role on both sides, run the same way. -/
def TwinItem (roles : List Assignment) (item item' : Bool × Prepared) : Prop :=
  item'.1 = item.1 ∧ Twin roles item.2 item'.2

def itemIdx (item : Bool × Prepared) : Int := item.2.assignment.idx

/-- The part of `startRole` after the gates. -/
def launch (config : RunConfig) (a : Assignment) :
    RoleScript (Option (Bool × Prepared)) := do
  let p ← readyRole config a
  let item ← activateRole config p
  pure (some item)

theorem eval_startRole {s' : LocalRun} {log' : List RoleExchange}
    (h : Script.eval env.answer (passGates config a) s log =
      ((.ok (some b), s'), log')) :
    Script.eval env.answer (startRole config a) s log =
      Script.eval env.answer (launch config b) s' log' := by
  unfold startRole prepare
  rw [Script.bind_assoc, Script.eval_bind_ok env.answer h, Script.bind_assoc]
  rfl

theorem eval_startRole_none {s' : LocalRun} {log' : List RoleExchange}
    (h : Script.eval env.answer (passGates config a) s log =
      ((.ok none, s'), log')) :
    Script.eval env.answer (startRole config a) s log =
      ((.ok none, s'), log') := by
  unfold startRole prepare
  rw [Script.bind_assoc, Script.eval_bind_ok env.answer h]
  rfl

/-- The prepared role that a prompt makes. -/
def Assignment.ready (prompt : Prompt) (a : Assignment) : Prepared :=
  { assignment := { a with memHits := prompt.memHits }
    user := prompt.user
    system := prompt.system
    gitBefore := prompt.gitBefore }

def LocalRun.modeOf (run : LocalRun) (a : Assignment) : String :=
  orElse a.mode ((run.roleModes a.idx).getD "chat")

theorem eval_launch {prompt : Prompt} {log' : List RoleExchange}
    (h : Script.eval env.answer
      (buildPrompt config (s.priors a) (s.degradedNotes a.idx) a) () log =
        ((.ok prompt, ()), log')) :
    Script.eval env.answer (launch config a) s log =
      ((.ok (some (route config (s.modeOf a) (a.ready prompt))), s),
        log' ++ [⟨.graphUpdate a.idx .running, ()⟩,
          ⟨.heartbeat a.role s.done.length, ()⟩]) := by
  have hcall : Script.eval env.answer (Script.call
      (buildPrompt config (s.priors a) (s.degradedNotes a.idx) a)) s log =
        ((.ok prompt, s), log') := by
    rw [Script.eval_call, h]
  have hready : Script.eval env.answer (readyRole config a) s log =
      ((.ok (a.ready prompt), s), log') := by
    unfold readyRole
    rw [Script.eval_bind_ok env.answer (Script.eval_read env.answer s log),
      Script.eval_bind_ok env.answer hcall]
    rfl
  have hactivate : Script.eval env.answer
      (activateRole config (a.ready prompt)) s log' =
        ((.ok (route config (s.modeOf a) (a.ready prompt)), s),
          log' ++ [⟨.graphUpdate a.idx .running, ()⟩] ++
            [⟨.heartbeat a.role s.done.length, ()⟩]) := rfl
  unfold launch
  rw [Script.eval_bind_ok env.answer hready,
    Script.eval_bind_ok env.answer hactivate, List.append_assoc]
  rfl

theorem launch_shows (config : RunConfig) (henv : env.Calm) (a : Assignment)
    (s : LocalRun) (log : List RoleExchange) :
    Shown a.idx .running
      (Script.eval env.answer (launch config a) s log).2 := by
  obtain ⟨prompt, log', h⟩ := buildPrompt_returns config henv (s.priors a)
    (s.degradedNotes a.idx) a log
  rw [eval_launch h]
  exact ⟨_, List.mem_append_right _ List.mem_cons_self, rfl⟩

theorem route_twin {mode : String} {p p' : Prepared} (h : Twin roles p p') :
    TwinItem roles (route config mode p) (route config mode p') := by
  unfold route
  split
  · refine ⟨rfl, ?_, h.user, h.system, h.gitBefore, h.clear, h.clear',
      h.role⟩
    have hrole : p'.assignment.role = p.assignment.role :=
      of_core h.core Assignment.role fun _ => rfl
    have hexec : p'.assignment.executor = p.assignment.executor :=
      of_core h.core Assignment.executor fun _ => rfl
    have hreason : p'.assignment.modeReason = p.assignment.modeReason :=
      of_core h.core Assignment.modeReason fun _ => rfl
    have hcore : ∀ q : Assignment, (q.assignExecutor config).core =
        { q.core with
          executor := (q.assignExecutor config).executor
          modeReason := (q.assignExecutor config).modeReason } :=
      fun _ => rfl
    rw [hcore, hcore p.assignment, h.core]
    simp only [Assignment.assignExecutor, hrole, hexec, hreason]
  · exact ⟨rfl, h⟩

theorem launch_coupled (henv : env.Calm) (hab : b.core = a.core)
    (ha : a.Clear) (hb : b.Clear)
    (hrole : ∃ role ∈ roles, role.idx = a.idx ∧ role.role = a.role) :
    Coupled env.answer (Sound config cfg roles)
      (Mirrors roles base placed flight)
      (fun r r' s t log =>
        List.Forall₂ (TwinItem roles) r.toList r'.toList ∧
          r.toList.map itemIdx = [a.idx] ∧
          Mirrors roles base placed flight s t log)
      (launch config a) (launch config b) := by
  apply Coupled.both sound_back
  intro s t log h _
  obtain ⟨prompt, log', heval⟩ := buildPrompt_returns config henv
    (s.priors a) (s.degradedNotes a.idx) a log
  have heval' : Script.eval env.answer
      (buildPrompt config (t.priors b) (t.degradedNotes b.idx) b) () log =
        ((.ok prompt, ()), log') := by
    rw [h.prompt hab, heval]
  have hidx : b.idx = a.idx := of_core hab Assignment.idx fun _ => rfl
  have hmode : t.modeOf b = s.modeOf a := by
    unfold LocalRun.modeOf
    rw [h.modes, hidx, of_core hab Assignment.mode fun _ => rfl]
  have hlength : t.done.length = s.done.length := by
    rw [← List.length_map Assignment.core, h.done, List.length_map]
  have hready : Twin roles (a.ready prompt) (b.ready prompt) := by
    refine ⟨?_, rfl, rfl, rfl, ha, hb, hrole⟩
    exact congrArg (fun p : Assignment =>
      { p with memHits := prompt.memHits }) hab
  have htwin : TwinItem roles (route config (s.modeOf a) (a.ready prompt))
      (route config (t.modeOf b) (b.ready prompt)) := by
    rw [hmode]
    exact route_twin hready
  have hroute : itemIdx (route config (s.modeOf a) (a.ready prompt)) =
      a.idx := by
    unfold itemIdx route
    split <;> rfl
  have hworld : Script.eval env.answer (launch config b) t log =
      ((.ok (some (route config (t.modeOf b) (b.ready prompt))), t),
        log' ++ [⟨.graphUpdate a.idx .running, ()⟩,
          ⟨.heartbeat a.role s.done.length, ()⟩]) := by
    rw [eval_launch heval', hidx, hlength,
      of_core hab Assignment.role fun _ => rfl]
  have hsub : log ⊆ log' ++ [⟨.graphUpdate a.idx .running, ()⟩,
      ⟨.heartbeat a.role s.done.length, ()⟩] := by
    have hpre := eval_subset env
      (buildPrompt config (s.priors a) (s.degradedNotes a.idx) a ()) log
    rw [show (Prog.eval env.answer _ log).2 = log' from
      congrArg Prod.snd heval] at hpre
    exact List.Subset.trans hpre (List.subset_append_left _ _)
  exact ⟨_, _, _, _, _, eval_launch heval, hworld,
    List.Forall₂.cons htwin List.Forall₂.nil, by simp [hroute], h.mono hsub⟩

theorem eval_passGates_skip {error mode modeReason : String}
    (h : cascade config s a = .skip error mode modeReason) :
    Script.eval env.answer (passGates config a) s log =
      ((.ok none, s.record (a.skip error mode modeReason)),
        log ++ closing (s.record (a.skip error mode modeReason))
          (a.skip error mode modeReason)) := by
  unfold passGates
  rw [Script.eval_bind_ok env.answer (Script.eval_read env.answer s log)]
  simp only [h]
  rw [Script.eval_bind_ok env.answer (eval_finish env _ s log)]
  rfl

def LocalRun.note (a : Assignment) (failed : List String) (run : LocalRun) :
    LocalRun :=
  { run with
    degradedNotes := Function.update run.degradedNotes a.idx (some failed) }

theorem eval_passGates_degrade {failed : List String}
    (h : cascade config s a = .degrade failed) :
    Script.eval env.answer (passGates config a) s log =
      Script.eval env.answer (planGate a.degrade) (s.note a failed) log := by
  unfold passGates
  rw [Script.eval_bind_ok env.answer (Script.eval_read env.answer s log)]
  simp only [h]
  rw [Script.eval_bind_ok env.answer (Script.eval_update env.answer _ s log)]
  rfl

theorem eval_passGates_proceed (h : cascade config s a = .proceed) :
    Script.eval env.answer (passGates config a) s log =
      Script.eval env.answer (planGate a) s log := by
  unfold passGates
  rw [Script.eval_bind_ok env.answer (Script.eval_read env.answer s log)]
  simp only [h]

theorem eval_planGate_off (hoff : s.plan = none) :
    Script.eval env.answer (planGate a) s log = ((.ok (some a), s), log) := by
  unfold planGate
  rw [Script.eval_bind_ok env.answer (Script.eval_read env.answer s log), hoff]
  rfl

theorem eval_planGate_open (henv : env.Calm)
    (hbase : Mirrored config cfg roles base) {role : Assignment}
    (hrole : role ∈ roles) (hid : role.stepId = a.stepId)
    (hfresh : role.idx ∉ placed)
    (hdeps : ∀ d ∈ role.dependsOn, d ∈ placed ∧ d ∉ flight ∧ ¬Fell d log)
    {plan : Plan} (hplan : t.plan = some plan)
    (htracks : Tracks roles base placed flight log plan) :
    ∃ plan', Script.eval env.answer (planGate a) t log =
      ((.ok (some { a with planStatus := running.text }),
        { t with plan := some plan' }), log) ∧
      Tracks roles base (role.idx :: placed) (role.idx :: flight) log
        plan' := by
  obtain ⟨built, step, hbuilt, hget, hshape, hstage⟩ := htracks.step role hrole
  obtain ⟨hpending, hlog⟩ := hstage.fresh hfresh
  have hunmet : unmetOf plan step = [] := by
    rw [unmetOf_eq_nil (by rw [htracks.ids]; exact hbase.nodup)]
    intro dep hdep
    obtain ⟨built', hbuilt', _, _, _, hdeps'⟩ := hbase.built role hrole
    rw [hbuilt] at hbuilt'
    obtain rfl := Option.some.inj hbuilt'
    obtain ⟨p, hp, hpdep, rfl⟩ := hdeps' dep (hshape.dependsOn ▸ hdep)
    obtain ⟨hin, hout, hnot⟩ := hdeps p.idx hpdep
    obtain ⟨_, prior, _, hprior, _, hpstage⟩ := htracks.step p hp
    rw [Plan.statusOf, hprior]
    exact congrArg some ((hpstage.settled hin hout).resolve_right hnot)
  have hcan : canStart plan a.stepId = .ok true := by
    rw [← hid, canStart, plan.getStep_ok hget]
    simp [hpending, hunmet]
  have hpath : storePath plan.planId = .ok () := by
    rw [htracks.planId]
    exact hbase.storable
  obtain ⟨_, plan', heval, now, hwork⟩ := eval_onPlan henv
    (gives_openStep hget hpending hunmet False.elim fun _ => hpath) t log
  have hmoved := hwork.moved
  refine ⟨plan', ?_, ?_⟩
  · unfold planGate
    rw [Script.eval_bind_ok env.answer (Script.eval_read env.answer t log),
      hplan]
    rw [hid] at heval
    dsimp only
    rw [show assignmentStepId a.idx a.role = a.stepId from rfl, hcan]
    dsimp only
    rw [Script.eval_bind_ok env.answer heval]
    rfl
  · refine htracks.move hbase hrole hget hmoved (enter_shape ..)
      (List.Subset.refl log) (role.idx :: placed) (role.idx :: flight)
      (fun i hi => by simp [hi]) (fun i hi => by simp [hi]) ⟨?_, ?_, ?_⟩
    · exact fun hout => absurd List.mem_cons_self hout
    · exact fun _ => ⟨rfl, hlog⟩
    · exact fun _ hout => absurd List.mem_cons_self hout

theorem running_clear (a : Assignment) :
    Assignment.Clear { a with planStatus := running.text } := by
  have h : running.text ∉ ["blocked", "skipped"] := by decide
  exact h

theorem Mirrors.takeOff (h : Mirrors roles base placed flight s t log)
    {idx : Int} (hfresh : idx ∉ placed) (t' : LocalRun)
    (ht : t' = { t with plan := t'.plan })
    (hgates : t.plan = none ∧ t.gatesOn = false ∧ t'.plan = none ∨
      t.gatesOn = true ∧ t.planMode = "shadow" ∧ ∃ plan,
        t'.plan = some plan ∧
          Tracks roles base (idx :: placed) (idx :: flight) log plan) :
    Mirrors roles base (idx :: placed) (idx :: flight) s t' log := by
  rw [ht]
  refine ⟨h.done, h.assignments, h.modes, h.notes, h.off, ?_, ?_, ?_, ?_⟩
  · intro i
    rw [h.placed_iff i]
    by_cases hi : i = idx
    · subst hi
      simp [hfresh]
    · simp [hi]
  · exact List.nodup_cons.mpr ⟨fun hin => hfresh (h.flying hin), h.nodup⟩
  · exact List.cons_subset_cons idx h.flying
  · rcases hgates with ⟨_, hoff, hnone⟩ | ⟨hon, hmode, plan, hplan, htracks⟩
    · exact Or.inl ⟨hnone, hoff⟩
    · exact Or.inr ⟨hon, hmode, plan, hplan, htracks⟩

/-- What both sides hold of a role of the wave once it was started or
skipped. -/
def Started (roles : List Assignment) (base : Plan) (a : Assignment)
    (placed flight : List Int) (r r' : Option (Bool × Prepared))
    (s t : LocalRun) (log : List RoleExchange) : Prop :=
  List.Forall₂ (TwinItem roles) r.toList r'.toList ∧
    (∀ i ∈ r.toList.map itemIdx, i = a.idx) ∧
    Mirrors roles base (a.idx :: placed) (r.toList.map itemIdx ++ flight) s t
      log

/-- Past the cascade the role starts on both sides, or the log shows that it
started after a fall. -/
theorem startRole_go (henv : env.Calm)
    (hbase : Mirrored config cfg roles base) (ha : a ∈ roles)
    (hfresh : a.idx ∉ placed)
    (hdeps : ∀ d ∈ a.dependsOn, d ∈ placed ∧ d ∉ flight)
    {s' t' : LocalRun} (hidx : b.idx = a.idx) (hname : b.role = a.role)
    (hclear : b.Clear)
    (hpass : Script.eval env.answer (passGates config a) s log =
      Script.eval env.answer (planGate b) s' log)
    (hpass' : Script.eval env.answer (passGates config a) t log =
      Script.eval env.answer (planGate b) t' log)
    (h : Mirrors roles base placed flight s' t' log)
    (hs : Sound config cfg roles
      (Script.eval env.answer (startRole config a) s log).2) :
    (Script.eval env.answer (startRole config a) t log).2 =
        (Script.eval env.answer (startRole config a) s log).2 ∧
      Ends (Started roles base a placed flight)
        (Script.eval env.answer (startRole config a) s log).2
        (Script.eval env.answer (startRole config a) s log).1
        (Script.eval env.answer (startRole config a) t log).1 := by
  have hoff := hpass.trans (eval_planGate_off h.off.1)
  rw [eval_startRole hoff] at hs ⊢
  have hshown := launch_shows config henv b s' log
  have hnot : ∀ d ∈ a.dependsOn, ¬Fell d log := by
    intro d hd hfell
    rw [hidx] at hshown
    exact hs.started a ha hshown d hd (hfell.mono (eval_subset env _ log))
  have hopen : ∃ c t'', Script.eval env.answer (passGates config a) t log =
      ((.ok (some c), t''), log) ∧ c.core = b.core ∧ c.Clear ∧
      Mirrors roles base (a.idx :: placed) (a.idx :: flight) s' t'' log := by
    rcases h.gates with ⟨hnone, hgates⟩ | ⟨hon, hmode, plan, hplan, htracks⟩
    · exact ⟨b, t', hpass'.trans (eval_planGate_off hnone), rfl, hclear,
        h.takeOff hfresh t' rfl (Or.inl ⟨hnone, hgates, hnone⟩)⟩
    · have hid : a.stepId = b.stepId := by
        unfold Assignment.stepId
        rw [hidx, hname]
      obtain ⟨plan', heval, htracks'⟩ := eval_planGate_open henv hbase ha hid
        hfresh (fun d hd => ⟨(hdeps d hd).1, (hdeps d hd).2, hnot d hd⟩)
        hplan htracks
      exact ⟨_, _, hpass'.trans heval, rfl, running_clear b,
        h.takeOff hfresh { t' with plan := some plan' } rfl
          (Or.inr ⟨hon, hmode, plan', rfl, htracks'⟩)⟩
  obtain ⟨c, t'', hon, hcore, hclear', hmirrors⟩ := hopen
  rw [eval_startRole hon]
  have hcoupled := launch_coupled henv hcore hclear hclear'
    ⟨a, ha, hidx.symm, hname.symm⟩ s' t'' log hmirrors hs
  refine ⟨hcoupled.1, hcoupled.2.imp ?_⟩
  rintro r r' s t ⟨htwins, hitems, hm⟩
  rw [hidx] at hitems
  exact ⟨htwins, by simp [hitems], by rw [hitems]; exact hm⟩

theorem skip_blocked (error mode modeReason : String) (a : Assignment) :
    finishedStatus (a.skip error mode modeReason) = .blocked := rfl

theorem startRole_coupled (henv : env.Calm)
    (hbase : Mirrored config cfg roles base) (ha : a ∈ roles)
    (hclear : a.Clear) (hfresh : a.idx ∉ placed)
    (hdeps : ∀ d ∈ a.dependsOn, d ∈ placed ∧ d ∉ flight) :
    Coupled env.answer (Sound config cfg roles)
      (Mirrors roles base placed flight)
      (Started roles base a placed flight)
      (startRole config a) (startRole config a) := by
  intro s t log h hs
  have hcascade := h.cascade config a
  cases hverdict : cascade config s a with
  | proceed =>
      rw [hverdict] at hcascade
      exact startRole_go henv hbase ha hfresh hdeps rfl rfl hclear
        (eval_passGates_proceed hverdict) (eval_passGates_proceed hcascade) h hs
  | degrade failed =>
      rw [hverdict] at hcascade
      have hnoted : Mirrors roles base placed flight (s.note a failed)
          (t.note a failed) log :=
        { h with
          notes := by
            simp only [LocalRun.note, h.notes] }
      exact startRole_go (b := a.degrade) henv hbase ha hfresh hdeps rfl rfl
        hclear (eval_passGates_degrade hverdict) (eval_passGates_degrade hcascade)
        hnoted hs
  | skip error mode modeReason =>
      rw [hverdict] at hcascade
      rw [eval_startRole_none (eval_passGates_skip hverdict),
        eval_startRole_none (eval_passGates_skip hcascade),
        closing_core h.done rfl rfl]
      have hsub : log ⊆ log ++ closing
          (s.record (a.skip error mode modeReason))
          (a.skip error mode modeReason) := List.subset_append_left _ _
      have hshown := closing_shows log
        (s.record (a.skip error mode modeReason))
        (a.skip error mode modeReason)
      rw [skip_blocked] at hshown
      have hout : a.idx ∉ flight := fun hin => hfresh (h.flying hin)
      refine ⟨rfl, List.Forall₂.nil, (by simp), h.record rfl ?_ h.nodup
        (fun i hi => List.mem_cons_of_mem _ (h.flying hi)) t rfl ?_⟩
      · intro i
        by_cases hi : i = a.idx
        · subst hi
          simp [hout, Assignment.skip]
        · simp [hi, Assignment.skip]
      · rcases h.gates with ⟨hnone, hgates⟩ | ⟨hon, hmode, plan, hplan, htracks⟩
        · exact Or.inl ⟨hnone, hgates, hnone⟩
        · obtain ⟨_, step, _, hget, _, _⟩ := htracks.step a ha
          refine Or.inr ⟨hon, hmode, plan, hplan, htracks.move hbase ha hget
            (StepMoved.start hget) SameShape.rfl hsub (a.idx :: placed) flight
            (fun i hi => by simp [hi]) (fun _ _ => Iff.rfl) ⟨?_, ?_, ?_⟩⟩
          · exact fun hnot => absurd List.mem_cons_self hnot
          · exact fun hin => absurd hin hout
          · exact fun _ _ => Or.inr (Or.inl hshown)

theorem Mirrors.perm (h : Mirrors roles base placed flight s t log)
    {flight' : List Int} (hperm : flight.Perm flight') :
    Mirrors roles base placed flight' s t log := by
  refine ⟨h.done, h.assignments, h.modes, h.notes, h.off, ?_,
    hperm.nodup_iff.mp h.nodup, fun i hi => h.flying (hperm.mem_iff.mpr hi), ?_⟩
  · intro i
    rw [h.placed_iff i, hperm.mem_iff]
  · refine h.gates.imp_right ?_
    rintro ⟨hon, hmode, plan, hplan, htracks⟩
    refine ⟨hon, hmode, plan, hplan, htracks.planId, htracks.ids, ?_⟩
    intro a ha
    obtain ⟨built, step, hbuilt, hget, hshape, hstage⟩ := htracks.step a ha
    refine ⟨built, step, hbuilt, hget, hshape, hstage.fresh, ?_, ?_⟩
    · exact fun hin => hstage.going (hperm.mem_iff.mpr hin)
    · exact fun hin hout =>
        hstage.settled hin fun hfly => hout (hperm.mem_iff.mp hfly)

/-- What a wave needs of its roles: none was placed, and all they depend on
was. -/
structure WaveReady (roles : List Assignment) (placed flight : List Int)
    (wave : List Assignment) : Prop where
  known : ∀ a ∈ wave, a ∈ roles ∧ a.Clear
  fresh : ∀ a ∈ wave, a.idx ∉ placed
  deps : ∀ a ∈ wave, ∀ d ∈ a.dependsOn, d ∈ placed ∧ d ∉ flight
  nodup : (wave.map Assignment.idx).Nodup

theorem startRoles_coupled (henv : env.Calm)
    (hbase : Mirrored config cfg roles base) (wave : List Assignment)
    (hwave : WaveReady roles placed flight wave) :
    Coupled env.answer (Sound config cfg roles)
      (Mirrors roles base placed flight)
      (fun items items' s t log =>
        List.Forall₂ (TwinItem roles) items items' ∧
          Mirrors roles base ((wave.map Assignment.idx).reverse ++ placed)
            (items.map itemIdx ++ flight) s t log)
      (startRoles config wave) (startRoles config wave) := by
  induction wave generalizing placed flight with
  | nil => exact Coupled.ret fun s t log h _ => ⟨List.Forall₂.nil, h⟩
  | cons a rest ih =>
      obtain ⟨ha, hclear⟩ := hwave.known a List.mem_cons_self
      have hfresh := hwave.fresh a List.mem_cons_self
      have hnodup := List.nodup_cons.mp hwave.nodup
      unfold startRoles
      apply Coupled.seq sound_back (startRole_coupled henv hbase ha hclear
        hfresh (hwave.deps a List.mem_cons_self))
      intro r r'
      apply Coupled.of_pre fun s t log h => And.intro h.1 h.2.1
      rintro ⟨htwins, hitems⟩
      have hrest : WaveReady roles (a.idx :: placed)
          (r.toList.map itemIdx ++ flight) rest := by
        refine ⟨fun b hb => hwave.known b (List.mem_cons_of_mem _ hb), ?_, ?_,
          hnodup.2⟩
        · intro b hb hin
          rcases List.mem_cons.mp hin with heq | hin
          · exact hnodup.1 (heq ▸ List.mem_map_of_mem hb)
          · exact hwave.fresh b (List.mem_cons_of_mem _ hb) hin
        · intro b hb d hd
          obtain ⟨hin, hout⟩ := hwave.deps b (List.mem_cons_of_mem _ hb) d hd
          refine ⟨List.mem_cons_of_mem _ hin, fun hfly => ?_⟩
          rcases List.mem_append.mp hfly with hnew | hold
          · exact hfresh (hitems d hnew ▸ hin)
          · exact hout hold
      apply Coupled.seq sound_back
        ((ih hrest).mono (fun s t log h => h.2.2) fun _ _ _ _ _ h => h)
      intro items items'
      apply Coupled.ret
      rintro s t log ⟨hothers, h⟩ _
      refine ⟨List.rel_append htwins hothers, ?_⟩
      rw [List.map_append, List.map_cons, List.reverse_cons, List.append_assoc,
        List.append_assoc]
      apply h.perm
      rw [← List.append_assoc, ← List.append_assoc]
      exact List.perm_append_comm.append_right flight

end Start

end Voly.A2A
