/-
The phases of a wave: how the start of a role, its call and its end keep what
stands of a multi-agent run.
-/
import Voly.A2A.Progress

namespace Voly.A2A

open Python Interaction StepStatus

section Phases

variable {calm clean : Prop} {config : RunConfig} {roles : List Assignment}
  {base : Plan} {waves : List (List Assignment)}
  {placed flight waiting limited placed' flight' : List Int}
  {run : LocalRun} {g : Progress} {a b : Assignment}

theorem gives_onPlan {A : Type} {plan : Plan} {x : PlanScript A}
    {Q : A → Plan → Prop}
    (hx : Script.Gives (stepProtocol calm clean) calm x
      (fun a plan' _ => Q a plan') plan ()) :
    Script.Gives (roleProtocol calm clean roles waves) calm (onPlan plan x)
      (fun a run' g' => g = g' ∧ ∃ plan', run' = { run with plan := some plan' } ∧
        Q a plan') run g := by
  unfold Script.Gives Script.wp onPlan
  rw [Prog.wp_bind]
  have hallow : ∀ op, (roleProtocol calm clean roles waves).allows g
      (.plan op) := fun _ => trivial
  apply Prog.wp_mono _ (Prog.wp_embed hallow ?_ (fun _ _ => rfl) (x plan) hx)
  · rintro ⟨out, plan'⟩ g' ⟨rfl, hout⟩
    cases out with
    | ok a => exact ⟨rfl, plan', rfl, hout⟩
    | error e => exact hout
  · rintro op reply ⟨hmild, hcandid⟩
    refine ⟨hmild, fun hclean => ?_⟩
    have hreply := hcandid hclean
    cases op with
    | inspect check ctx => exact hreply
    | _ => trivial

theorem gives_quiet {A B : Type} {x : HelperScript A} {f : A → RoleScript B}
    {R : B → LocalRun → Progress → Prop}
    (hx : Quiet calm clean roles waves x)
    (hf : ∀ out, Script.Gives (roleProtocol calm clean roles waves) calm
      (f out) R run g) :
    Script.Gives (roleProtocol calm clean roles waves) calm
      (Script.call x >>= f) R run g := by
  apply Script.Gives.bind (Script.Gives.call
    (Q := fun _ run' g' => run = run' ∧ g = g')
    (Script.Gives.mono (hx g) fun _ _ _ heq => ⟨rfl, heq⟩))
  rintro out _ _ ⟨rfl, rfl⟩
  exact hf out

theorem finishedStatus_ne_running (a : Assignment) :
    finishedStatus a ≠ .running := by
  unfold finishedStatus
  split_ifs <;> exact fun h => nomatch h

theorem gives_finish {Q : LocalRun → Progress → Prop}
    (hfresh : b.idx ∉ g.finished)
    (h : Q (run.record b) { g with finished := g.finished ++ [b.idx] }) :
    Script.Gives (roleProtocol calm clean roles waves) calm (finish b)
      (fun _ run' g' => Q run' g') run g := by
  have hnext : Progress.next g (.graphUpdate b.idx (finishedStatus b)) () =
      { g with finished := g.finished ++ [b.idx] } :=
    if_neg (finishedStatus_ne_running b)
  refine ⟨Or.inr hfresh, fun _ _ => ⟨trivial, fun _ _ => ?_⟩⟩
  change Q (run.record b)
    (Progress.next (Progress.next g (.graphUpdate b.idx (finishedStatus b)) ())
      (.heartbeat b.role (run.record b).done.length) ())
  rw [hnext]
  exact h

theorem failed_of_skip {error mode modeReason : String}
    (h : cascade config run a = .skip error mode modeReason) :
    ∃ p ∈ run.done, p.ok = false := by
  have hfailed : (run.priors a).filter (fun p => !p.ok) ≠ [] := by
    intro hnone
    unfold cascade at h
    dsimp only at h
    rw [hnone, List.map_nil, if_pos (Or.inr rfl)] at h
    cases h
  obtain ⟨p, hp⟩ := List.exists_mem_of_ne_nil _ hfailed
  obtain ⟨hprior, hok⟩ := List.mem_filter.mp hp
  obtain ⟨d, _, hfind⟩ := List.mem_filterMap.mp hprior
  exact ⟨p, List.mem_of_find?_eq_some hfind, by simpa using hok⟩

theorem Standing.takeOff (hunique : (roles.map Assignment.idx).Nodup)
    (h : Standing clean roles base placed flight flight limited run g)
    (ha : a ∈ roles) (hfresh : a.idx ∉ placed)
    (hdeps : ∀ d ∈ a.dependsOn, d ∈ placed ∧ d ∉ flight) {run' : LocalRun}
    (hassigned : run'.assignments = run.assignments)
    (hdone : run'.done = run.done)
    (hplan : ∀ plan, run'.plan = some plan →
      Heeds clean roles base (a.idx :: placed) (a.idx :: flight) run.done
        plan) :
    Standing clean roles base (a.idx :: placed) (a.idx :: flight)
      (a.idx :: flight) limited run' g := by
  have hout : a.idx ∉ run.done.map Assignment.idx ∧ a.idx ∉ flight :=
    not_or.mp fun hin => hfresh ((h.placed_iff a.idx).mpr hin)
  have hlanded : ∀ d ∈ a.dependsOn, d ∈ run.done.map Assignment.idx := by
    intro d hd
    obtain ⟨hin, hnot⟩ := hdeps d hd
    exact ((h.placed_iff d).mp hin).resolve_right hnot
  refine ⟨hassigned.trans h.assigned, by rw [hdone]; exact h.single,
    List.nodup_cons.mpr ⟨hout.2, h.flying⟩, ?_, ?_, ?_,
    by rw [hdone]; exact h.finished, ?_, ?_, h.limit,
    by rw [hdone]; exact hplan, by rw [hdone]; exact h.explained⟩
  · intro i
    rw [hdone, List.mem_cons, List.mem_cons, h.placed_iff]
    tauto
  · intro i hi
    rw [hdone]
    rcases List.mem_cons.mp hi with rfl | hi
    · exact hout.1
    · exact h.apart i hi
  · intro i hi
    rcases List.mem_cons.mp hi with rfl | hi
    · exact List.mem_map_of_mem ha
    · exact h.known i hi
  · intro i hi
    obtain ⟨hin, hnot⟩ := h.called i hi
    refine ⟨List.mem_cons_of_mem _ hin, fun hwait => ?_⟩
    rcases List.mem_cons.mp hwait with rfl | hwait
    · exact hfresh hin
    · exact hnot hwait
  · intro i hi
    rw [hdone]
    refine ⟨hi, fun p hp hidx => ?_⟩
    rcases List.mem_cons.mp hi with rfl | hi
    · obtain rfl := List.inj_on_of_nodup_map hunique hp ha hidx
      exact hlanded
    · exact (h.ready i hi).2 p hp hidx

theorem Standing.passOver
    (h : Standing clean roles base placed flight flight limited run g)
    (ha : a ∈ roles) (hfresh : a.idx ∉ placed) (hidx : b.idx = a.idx)
    (hok : b.ok = false) (hfailed : ∃ p ∈ run.done, p.ok = false) :
    b.idx ∉ g.finished ∧
      Standing clean roles base (a.idx :: placed) flight flight limited
        (run.record b) { g with finished := g.finished ++ [b.idx] } := by
  have hout : b.idx ∉ run.done.map Assignment.idx ∧ b.idx ∉ flight := by
    rw [hidx]
    exact not_or.mp fun hin => hfresh ((h.placed_iff a.idx).mpr hin)
  refine ⟨fun hin => hout.1 ((h.finished b.idx).mp hin),
    h.record hout.1 (by rw [hidx]; exact List.mem_map_of_mem ha) ?_ ?_
      h.flying hout.2 rfl rfl ?_ fun _ _ => Or.inr hfailed⟩
  · intro i
    rw [List.mem_cons, hidx]
  · intro i
    exact ⟨fun hi => ⟨hi, fun heq => hout.2 (heq ▸ hi)⟩, fun hi => hi.1⟩
  · intro plan hplan
    apply (h.plan plan hplan).weaken
      (fun _ hi => List.mem_cons_of_mem _ hi) (fun _ hi => hi)
    intro p hp hpok
    rcases List.mem_append.mp hp with hp | hp
    · exact hp
    · rw [List.mem_singleton.mp hp, hok] at hpok
      cases hpok

/-- What the gates leave: the role was passed over, or it took off. -/
def Gated (clean : Prop) (roles : List Assignment) (base : Plan)
    (placed flight limited : List Int) (a : Assignment) :
    Option Assignment → LocalRun → Progress → Prop
  | none, run, g =>
      Standing clean roles base (a.idx :: placed) flight flight limited run g
  | some b, run, g =>
      Standing clean roles base (a.idx :: placed) (a.idx :: flight)
        (a.idx :: flight) limited run g ∧ b.idx = a.idx ∧ Fit clean roles b

/-- A step that a role waits for is not verified: its role is done and not ok.
-/
theorem failed_of_unmet (hbase : Attached calm roles base)
    (h : Standing clean roles base placed flight flight limited run g)
    (ha : a ∈ roles) (hdeps : ∀ d ∈ a.dependsOn, d ∈ placed ∧ d ∉ flight)
    {plan : Plan} (hplan : run.plan = some plan) {step : PlanStep}
    (hget : plan.getStep? a.stepId = some step)
    (hunmet : unmetOf plan step ≠ []) : ∃ p ∈ run.done, p.ok = false := by
  have hheeds := h.plan plan hplan
  obtain ⟨built, hbuilt, hshape, _, _⟩ := hheeds.find ha hget
  by_contra hnone
  apply hunmet
  rw [unmetOf_eq_nil (by rw [hheeds.ids]; exact hbase.nodup)]
  intro dep hdep
  rw [hshape.dependsOn] at hdep
  obtain ⟨hin, p, hp, hpdep, rfl⟩ :=
    (hbase.built a ha built hbuilt).2.2.2 dep hdep
  obtain ⟨pbuilt, hpbuilt⟩ := base.exists_getStep? hin
  obtain ⟨pstep, hpget, _, _, hfoot⟩ := hheeds.step p hp pbuilt hpbuilt
  obtain ⟨hplaced, hout⟩ := hdeps p.idx hpdep
  obtain ⟨q, hq, hqidx⟩ := List.mem_map.mp
    (((h.placed_iff p.idx).mp hplaced).resolve_right hout)
  have hqok : q.ok = true := by
    cases hok : q.ok with
    | true => rfl
    | false => exact absurd ⟨q, hq, hok⟩ hnone
  rw [Plan.statusOf, hpget]
  exact congrArg some (hfoot.ended q hq hqidx hqok)

section

variable (hbase : Attached calm roles base)
  (hunique : (roles.map Assignment.idx).Nodup) (ha : a ∈ roles)
  (hfresh : a.idx ∉ placed) (hdeps : ∀ d ∈ a.dependsOn, d ∈ placed ∧ d ∉ flight)
include hbase hunique ha hfresh hdeps

theorem gives_planGate (hidx : b.idx = a.idx) (hname : b.role = a.role)
    (hfit : Fit clean roles b)
    (h : Standing clean roles base placed flight flight limited run g) :
    Script.Gives (roleProtocol calm clean roles waves) calm (planGate b)
      (Gated clean roles base placed flight limited a) run g := by
  have hid : assignmentStepId b.idx b.role = a.stepId := by
    rw [hidx, hname]
    rfl
  unfold planGate
  apply Script.Gives.read
  cases hplan : run.plan with
  | none =>
      refine ⟨h.takeOff hunique ha hfresh hdeps rfl rfl ?_, hidx, hfit⟩
      intro plan hsome
      rw [hplan] at hsome
      cases hsome
  | some plan =>
      have hheeds := h.plan plan hplan
      dsimp only
      rw [hid]
      cases hget : plan.getStep a.stepId with
      | error e =>
          rw [canStart, hget]
          apply Script.Gives.raise
          intro hcalm
          obtain ⟨step, hstep⟩ := hheeds.exists_step hbase ha hcalm
          rw [plan.getStep_error hget] at hstep
          cases hstep
      | ok step =>
          have hstep := plan.getStep_eq_ok hget
          obtain ⟨built, hbuilt, hshape, herror, hfoot⟩ :=
            hheeds.find ha hstep
          have hpending := hfoot.fresh hfresh
          rw [canStart, hget]
          dsimp only
          rw [hpending]
          by_cases hunmet : unmetOf plan step = []
          · rw [hunmet]
            have hpath : calm → storePath plan.planId = .ok () := by
              intro hcalm
              rw [hheeds.planId]
              exact (hbase.served hcalm).1
            apply Script.Gives.bind (gives_onPlan
              (gives_openStep hstep hpending hunmet herror hpath))
            rintro ⟨⟩ _ _ ⟨rfl, plan', rfl, now, hwork⟩
            refine ⟨h.takeOff hunique ha hfresh hdeps rfl rfl ?_, hidx,
              hfit.role, fun _ => running_clear b, hfit.error⟩
            rintro _ ⟨⟩
            apply hheeds.move hbase ha hstep hwork
              (fun _ hi => List.mem_cons_of_mem _ hi) ?_ (fun _ hp _ => hp) ?_
            · intro i hi hne
              exact (List.mem_cons.mp hi).resolve_left hne
            · refine ⟨fun hout => absurd List.mem_cons_self hout,
                fun _ => rfl, fun p hp hpidx _ => ?_⟩
              have hin : p.idx ∈ run.done.map Assignment.idx :=
                List.mem_map_of_mem hp
              rw [hpidx] at hin
              exact absurd ((h.placed_iff a.idx).mpr (Or.inl hin)) hfresh
          · have hfailed := failed_of_unmet hbase h ha hdeps hplan hstep hunmet
            have hblocked : (b.block (unmetOf plan step)).idx = a.idx := hidx
            obtain ⟨hfinished, hstand⟩ :=
              h.passOver ha hfresh hblocked rfl hfailed
            rw [decide_eq_false hunmet, Bool.and_false]
            apply Script.Gives.bind (gives_finish hfinished hstand)
            exact fun _ _ _ hdone => hdone

theorem gives_passGates (hfit : Fit clean roles a)
    (h : Standing clean roles base placed flight flight limited run g) :
    Script.Gives (roleProtocol calm clean roles waves) calm
      (passGates config a) (Gated clean roles base placed flight limited a)
      run g := by
  unfold passGates
  apply Script.Gives.read
  cases hcascade : cascade config run a with
  | proceed =>
      exact gives_planGate hbase hunique ha hfresh hdeps rfl rfl hfit h
  | degrade failed =>
      apply Script.Gives.update
      refine gives_planGate hbase hunique ha hfresh hdeps rfl rfl
        ⟨hfit.role, hfit.clear, hfit.error⟩ ?_
      exact { h with }
  | skip error mode modeReason =>
      obtain ⟨hfinished, hstand⟩ := h.passOver
        (b := a.skip error mode modeReason) ha hfresh rfl rfl
        (failed_of_skip hcascade)
      apply Script.Gives.bind (gives_finish hfinished hstand)
      exact fun _ _ _ hdone => hdone

end

/-- What the start of a role leaves: it is in flight if it goes on. -/
structure Launched (clean : Prop) (roles : List Assignment) (base : Plan)
    (placed flight limited : List Int) (wave : List Int)
    (items : List (Bool × Prepared)) (run : LocalRun) (g : Progress) :
    Prop where
  standing : Standing clean roles base (wave.reverse ++ placed)
    (items.map itemIdx ++ flight) (items.map itemIdx ++ flight) limited run g
  within : ∀ i ∈ items.map itemIdx, i ∈ wave
  fit : ∀ item ∈ items, Fit clean roles item.2.assignment

theorem route_fit (config : RunConfig) (mode : String) {p : Prepared}
    (hfit : Fit clean roles p.assignment) :
    itemIdx (route config mode p) = p.assignment.idx ∧
      Fit clean roles (route config mode p).2.assignment := by
  unfold itemIdx route
  split
  · exact ⟨rfl, hfit.role, hfit.clear, hfit.error⟩
  · exact ⟨rfl, hfit⟩

theorem gives_launch (hfit : Fit clean roles b) :
    Script.Gives (roleProtocol calm clean roles waves) calm (launch config b)
      (fun r run' g' => run = run' ∧ g = g' ∧ ∃ item, r = some item ∧
        itemIdx item = b.idx ∧ Fit clean roles item.2.assignment) run g := by
  unfold launch readyRole
  rw [Script.bind_assoc]
  apply Script.Gives.read
  rw [Script.bind_assoc]
  apply gives_quiet (buildPrompt_quiet _ _ _)
  intro prompt
  have hready : Fit clean roles { b with memHits := prompt.memHits } :=
    ⟨hfit.role, hfit.clear, hfit.error⟩
  obtain ⟨hidx, hroute⟩ := route_fit config
    (run.modeOf { b with memHits := prompt.memHits }) (p := b.ready prompt)
    hready
  refine ⟨Or.inl rfl, fun _ _ => ⟨trivial, fun _ _ => ?_⟩⟩
  exact ⟨rfl, rfl, _, rfl, hidx, hroute⟩

theorem startRole_eq (config : RunConfig) (a : Assignment) :
    startRole config a = passGates config a >>= fun gated =>
      match gated with
      | none => pure none
      | some b => launch config b := by
  unfold startRole prepare launch
  rw [Script.bind_assoc]
  congr 1
  funext gated
  cases gated with
  | none => rfl
  | some b => exact Script.bind_assoc (readyRole config b) _ _

section

variable (hbase : Attached calm roles base)
  (hunique : (roles.map Assignment.idx).Nodup)
include hbase hunique

theorem gives_startRole (ha : a ∈ roles) (hfresh : a.idx ∉ placed)
    (hdeps : ∀ d ∈ a.dependsOn, d ∈ placed ∧ d ∉ flight)
    (hfit : Fit clean roles a)
    (h : Standing clean roles base placed flight flight limited run g) :
    Script.Gives (roleProtocol calm clean roles waves) calm
      (startRole config a)
      (fun r run' g' => Launched clean roles base placed flight limited
        [a.idx] r.toList run' g') run g := by
  rw [startRole_eq]
  apply Script.Gives.bind
    (gives_passGates hbase hunique ha hfresh hdeps hfit h)
  intro gated run' g' hgated
  cases gated with
  | none => exact ⟨hgated, (fun _ hi => nomatch hi), fun _ hi => nomatch hi⟩
  | some b =>
      obtain ⟨hstand, hidx, hready⟩ := hgated
      apply Script.Gives.mono (gives_launch hready)
      rintro _ _ _ ⟨rfl, rfl, item, rfl, hitem, hlaunched⟩
      refine ⟨?_, ?_, ?_⟩
      · rw [Option.toList_some, List.map_singleton, hitem, hidx]
        exact hstand
      · rw [Option.toList_some, List.map_singleton, hitem, hidx]
        exact fun i hi => hi
      · intro p hp
        rw [Option.toList_some, List.mem_singleton] at hp
        rw [hp]
        exact hlaunched

theorem gives_startRoles (hfit : ∀ a ∈ roles, Fit clean roles a)
    {wave : List Assignment} (hwave : Layer roles placed wave)
    (hlanded : ∀ a ∈ wave, ∀ d ∈ a.dependsOn, d ∉ flight)
    (h : Standing clean roles base placed flight flight limited run g) :
    Script.Gives (roleProtocol calm clean roles waves) calm
      (startRoles config wave)
      (Launched clean roles base placed flight limited
        (wave.map Assignment.idx)) run g := by
  induction wave generalizing placed flight run g with
  | nil => exact ⟨h, (fun _ hi => nomatch hi), fun _ hi => nomatch hi⟩
  | cons a rest ih =>
      have ha := hwave.known a List.mem_cons_self
      have hfresh := hwave.fresh a List.mem_cons_self
      obtain ⟨hnot, hnodup⟩ := List.nodup_cons.mp hwave.nodup
      unfold startRoles
      apply Script.Gives.bind (gives_startRole hbase hunique ha hfresh
        (fun d hd => ⟨hwave.deps a List.mem_cons_self d hd,
          hlanded a List.mem_cons_self d hd⟩) (hfit a ha) h)
      intro r run' g' hfirst
      have hrest : Layer roles (a.idx :: placed) rest := by
        refine ⟨fun b hb => hwave.known b (List.mem_cons_of_mem _ hb), ?_, ?_,
          hnodup⟩
        · intro b hb hin
          rcases List.mem_cons.mp hin with heq | hin
          · exact hnot (heq ▸ List.mem_map_of_mem hb)
          · exact hwave.fresh b (List.mem_cons_of_mem _ hb) hin
        · intro b hb d hd
          exact List.mem_cons_of_mem _
            (hwave.deps b (List.mem_cons_of_mem _ hb) d hd)
      have hnext : ∀ b ∈ rest, ∀ d ∈ b.dependsOn,
          d ∉ r.toList.map itemIdx ++ flight := by
        intro b hb d hd hin
        rcases List.mem_append.mp hin with hin | hin
        · have hd' := List.mem_singleton.mp (hfirst.within d hin)
          exact hfresh (hd' ▸ hwave.deps b (List.mem_cons_of_mem _ hb) d hd)
        · exact hlanded b (List.mem_cons_of_mem _ hb) d hd hin
      apply Script.Gives.bind (ih hrest hnext hfirst.standing)
      intro items run'' g'' hothers
      have hperm : (items.map itemIdx ++ (r.toList.map itemIdx ++ flight)).Perm
          ((r.toList ++ items).map itemIdx ++ flight) := by
        rw [List.map_append, List.append_assoc, ← List.append_assoc,
          ← List.append_assoc]
        exact List.perm_append_comm.append_right flight
      refine ⟨?_, ?_, ?_⟩
      · have hstand := hothers.standing.perm hperm hperm
        rw [List.map_cons, List.reverse_cons, List.append_assoc]
        exact hstand
      · intro i hi
        rw [List.map_append] at hi
        rcases List.mem_append.mp hi with hi | hi
        · rw [List.mem_singleton.mp (hfirst.within i hi)]
          exact List.mem_cons_self
        · exact List.mem_cons_of_mem _ (hothers.within i hi)
      · intro item hitem
        rcases List.mem_append.mp hitem with hitem | hitem
        · exact hfirst.fit item hitem
        · exact hothers.fit item hitem

end

/-- The answered roles that met the spend limit. -/
def limitedItems (items : List (Prepared × ChatReply)) : List Int :=
  (items.filter fun item => spendLimited item.2).map fun item =>
    item.1.assignment.idx

theorem limitedItems_mem {items : List (Prepared × ChatReply)} {i : Int}
    (h : i ∈ limitedItems items) :
    i ∈ items.map fun item => item.1.assignment.idx := by
  obtain ⟨item, hitem, rfl⟩ := List.mem_map.mp h
  exact List.mem_map_of_mem (List.mem_filter.mp hitem).1

theorem limitedItems_append (items others : List (Prepared × ChatReply)) :
    limitedItems (items ++ others) =
      limitedItems items ++ limitedItems others := by
  unfold limitedItems
  rw [List.filter_append, List.map_append]

theorem limitedOf_takeReplies (replies : Nat → ChatReply)
    (ps : List Prepared) (i : Nat) :
    limitedOf replies i (ps.map (chatCall config)) =
      limitedItems (takeReplies replies i ps) := by
  induction ps generalizing i with
  | nil => rfl
  | cons p rest ih =>
      have hidx : (p.assignment.served (replies i)).idx = p.assignment.idx :=
        (blind_served (replies i)).idx p.assignment
      have hhead : ∀ items : List (Prepared × ChatReply),
          limitedItems ((p.served (replies i), replies i) :: items) =
            if spendLimited (replies i) then
              p.assignment.idx :: limitedItems items
            else limitedItems items := by
        intro items
        unfold limitedItems
        rw [List.filter_cons]
        split
        · rw [List.map_cons, Prepared.served, hidx]
        · rfl
      rw [takeReplies, hhead, ← ih, List.map_cons, limitedOf]
      rfl

/-- A role that waits for its call may be called, while no role of an earlier
wave met the spend limit. -/
theorem Standing.starts
    (h : Standing clean roles base placed flight waiting limited run g)
    {i : Int} (hi : i ∈ waiting)
    (hwithin : ∀ j ∈ limited, SameWave waves j i) :
    Starts roles waves g i := by
  obtain ⟨hfly, hdeps⟩ := h.ready i hi
  refine ⟨fun hin => (h.called i hin).2 hi,
    h.known i ((h.placed_iff i).mpr (Or.inr hfly)), ?_, ?_⟩
  · exact fun a ha hidx d hd => (h.finished d).mpr (hdeps a ha hidx d hd)
  · rw [h.limit]
    exact hwithin

theorem Standing.call (calls : List Int)
    (h : Standing clean roles base placed flight (calls ++ waiting) limited
      run g) (g' : Progress)
    (hnodup : (calls ++ waiting).Nodup)
    (hcalled : g'.called = g.called ++ calls)
    (hfinished : g'.finished = g.finished) :
    Standing clean roles base placed flight waiting g'.limited run g' :=
  { h with
    finished := by rw [hfinished]; exact h.finished
    called := fun i hi => by
      rw [hcalled] at hi
      rcases List.mem_append.mp hi with hi | hi
      · obtain ⟨hin, hout⟩ := h.called i hi
        exact ⟨hin, fun hwait => hout (List.mem_append_right _ hwait)⟩
      · refine ⟨(h.placed_iff i).mpr (Or.inr
          (h.ready i (List.mem_append_left _ hi)).1), fun hwait => ?_⟩
        exact List.disjoint_of_nodup_append hnodup hi hwait
    ready := fun i hi => h.ready i (List.mem_append_right _ hi)
    limit := rfl }

structure Called (clean : Prop) (roles : List Assignment) (base : Plan)
    (placed flight waiting limited : List Int) (ps : List Prepared)
    (items : List (Prepared × ChatReply)) (run : LocalRun) (g : Progress) :
    Prop where
  standing : Standing clean roles base placed flight waiting
    (limited ++ limitedItems items) run g
  idxs : (items.map fun item => item.1.assignment.idx) =
    ps.map fun p => p.assignment.idx
  fit : ∀ item ∈ items, Fit clean roles item.1.assignment
  candid : clean → ∀ item ∈ items, Unmasked (chatError item.2)

theorem served_fit {reply : ChatReply} (h : Fit clean roles a) :
    Fit clean roles (a.served reply) := by
  unfold Assignment.served
  split
  · exact ⟨h.role, h.clear, h.error⟩
  · exact h

theorem takeReplies_fit {replies : Nat → ChatReply} {ps : List Prepared}
    (hfit : ∀ p ∈ ps, Fit clean roles p.assignment)
    (hcandid : clean → ∀ i, Unmasked (chatError (replies i))) (i : Nat) :
    ∀ item ∈ takeReplies replies i ps, Fit clean roles item.1.assignment ∧
      (clean → Unmasked (chatError item.2)) := by
  induction ps generalizing i with
  | nil => exact fun item hitem => nomatch hitem
  | cons p rest ih =>
      intro item hitem
      rw [takeReplies] at hitem
      rcases List.mem_cons.mp hitem with rfl | hitem
      · exact ⟨served_fit (hfit p List.mem_cons_self),
          fun hclean => hcandid hclean i⟩
      · exact ih (fun p hp => hfit p (List.mem_cons_of_mem _ hp)) (i + 1) item
          hitem

theorem gives_chat (ps : List Prepared)
    (hnodup : (ps.map (fun p => p.assignment.idx) ++ waiting).Nodup)
    (hwithin : ∀ j ∈ limited, ∀ i ∈ ps.map fun p => p.assignment.idx,
      SameWave waves j i)
    (hfit : ∀ p ∈ ps, Fit clean roles p.assignment)
    (h : Standing clean roles base placed flight
      (ps.map (fun p => p.assignment.idx) ++ waiting) limited run g) :
    Script.Gives (roleProtocol calm clean roles waves) calm
      (Script.ask (RoleOp.chat (ps.map (chatCall config))) :
        RoleScript (Nat → ChatReply))
      (fun replies run' g' => run = run' ∧ Called clean roles base placed
        flight waiting limited ps (takeReplies replies 0 ps) run g')
      run g := by
  have hidxs : (ps.map (chatCall config)).map ChatCall.idx =
      ps.map fun p => p.assignment.idx := List.map_map
  apply Script.Gives.ask
  · refine ⟨?_, fun call hcall => ?_⟩
    · rw [hidxs]
      exact (List.nodup_append.mp hnodup).1
    · obtain ⟨p, hp, rfl⟩ := List.mem_map.mp hcall
      have hmem : p.assignment.idx ∈ ps.map fun p => p.assignment.idx :=
        List.mem_map_of_mem hp
      exact h.starts (List.mem_append_left _ hmem) fun j hj =>
        hwithin j hj _ hmem
  · rintro replies ⟨_, hcandid⟩
    have hreplies := takeReplies_fit hfit hcandid 0
    refine ⟨rfl, ?_, takeReplies_idx replies ps 0,
      fun item hitem => (hreplies item hitem).1,
      fun hclean item hitem => (hreplies item hitem).2 hclean⟩
    have hcalled := h.call (ps.map fun p => p.assignment.idx)
      (g.next (.chat (ps.map (chatCall config))) replies) hnodup
      (congrArg (g.called ++ ·) hidxs) rfl
    have hlimited : (g.next (.chat (ps.map (chatCall config)))
        replies).limited = limited ++ limitedItems (takeReplies replies 0 ps) := by
      rw [← limitedOf_takeReplies, ← h.limit]
      rfl
    rw [hlimited] at hcalled
    exact hcalled

theorem gives_chatInTurn {ps : List Prepared}
    (hnodup : (ps.map (fun p => p.assignment.idx) ++ waiting).Nodup)
    (hwithin : ∀ j ∈ limited ++ ps.map (fun p => p.assignment.idx),
      ∀ i ∈ ps.map fun p => p.assignment.idx, SameWave waves j i)
    (hfit : ∀ p ∈ ps, Fit clean roles p.assignment)
    (h : Standing clean roles base placed flight
      (ps.map (fun p => p.assignment.idx) ++ waiting) limited run g) :
    Script.Gives (roleProtocol calm clean roles waves) calm
      (chatInTurn config ps)
      (Called clean roles base placed flight waiting limited ps) run g := by
  induction ps generalizing limited run g with
  | nil =>
      refine ⟨?_, rfl, (fun _ hitem => nomatch hitem),
        fun _ _ hitem => nomatch hitem⟩
      rw [show limited ++ limitedItems [] = limited from List.append_nil _]
      exact h
  | cons p rest ih =>
      rw [List.map_cons, List.cons_append] at hnodup h
      unfold chatInTurn
      apply Script.Gives.bind (gives_chat [p] hnodup
        (fun j hj i hi => hwithin j (List.mem_append_left _ hj) i
          (List.mem_cons.mpr (Or.inl (List.mem_singleton.mp hi))))
        (fun q hq => hfit q (List.mem_cons.mpr
          (Or.inl (List.mem_singleton.mp hq)))) h)
      rintro replies _ g' ⟨rfl, hfirst⟩
      apply Script.Gives.bind (ih (List.nodup_cons.mp hnodup).2 ?_
        (fun q hq => hfit q (List.mem_cons_of_mem _ hq)) hfirst.standing)
      · intro items run' g'' hothers
        refine ⟨?_, ?_, ?_, ?_⟩
        · rw [limitedItems_append, ← List.append_assoc]
          exact hothers.standing
        · rw [List.map_append, hfirst.idxs, hothers.idxs]
          rfl
        · intro item hitem
          rcases List.mem_append.mp hitem with hitem | hitem
          · exact hfirst.fit item hitem
          · exact hothers.fit item hitem
        · intro hclean item hitem
          rcases List.mem_append.mp hitem with hitem | hitem
          · exact hfirst.candid hclean item hitem
          · exact hothers.candid hclean item hitem
      · intro j hj i hi
        apply hwithin j _ i (List.mem_cons_of_mem _ hi)
        rcases List.mem_append.mp hj with hj | hj
        · rcases List.mem_append.mp hj with hj | hj
          · exact List.mem_append_left _ hj
          · have hmem := limitedItems_mem hj
            rw [hfirst.idxs] at hmem
            exact List.mem_append_right _ (List.mem_cons.mpr
              (Or.inl (List.mem_singleton.mp hmem)))
        · exact List.mem_append_right _ (List.mem_cons_of_mem _ hj)

theorem gives_chatCalls (ps : List Prepared)
    (hnodup : (ps.map (fun p => p.assignment.idx) ++ waiting).Nodup)
    (hwithin : ∀ j ∈ limited ++ ps.map (fun p => p.assignment.idx),
      ∀ i ∈ ps.map fun p => p.assignment.idx, SameWave waves j i)
    (hfit : ∀ p ∈ ps, Fit clean roles p.assignment)
    (h : Standing clean roles base placed flight
      (ps.map (fun p => p.assignment.idx) ++ waiting) limited run g) :
    Script.Gives (roleProtocol calm clean roles waves) calm
      (chatCalls config ps)
      (Called clean roles base placed flight waiting limited ps) run g := by
  unfold chatCalls
  split
  · apply Script.Gives.bind (gives_chat ps hnodup
      (fun j hj => hwithin j (List.mem_append_left _ hj)) hfit h)
    rintro replies _ g' ⟨rfl, hcalled⟩
    exact hcalled
  · exact gives_chatInTurn hnodup hwithin hfit h

/-- What the end of a role's step leaves of the run. -/
structure Settled (clean : Prop) (roles : List Assignment) (base : Plan)
    (placed flight : List Int) (a : Assignment) (run : LocalRun)
    (b : Assignment) (run' : LocalRun) : Prop where
  idx : b.idx = a.idx
  clear : clean → b.Clear
  error : clean → Unmasked b.error
  assigned : run'.assignments = run.assignments
  done : run'.done = run.done
  plan : ∀ plan, run'.plan = some plan →
    Heeds clean roles base placed flight (run.done ++ [b]) plan

theorem gives_endStep {cfg : PlanConfig} {planMode : String}
    {priors : List Assignment} {execOk : Bool} {gitBefore : Dict String}
    {plan : Plan} {step : PlanStep} (hfit : Fit clean roles a)
    (hfail : execOk = false → a.ok = false)
    (hget : plan.getStep? (assignmentStepId a.idx a.role) = some step)
    (hstatus : step.status = running)
    (htypes : ∀ check ∈ step.acceptance, check.type ∈ roleCheckTypes)
    (herror : clean → Unmasked step.error)
    (hpath : calm → storePath plan.planId = .ok ()) :
    Script.Gives (stepProtocol calm clean) calm
      (finishStep config cfg planMode a priors execOk gitBefore)
      (fun b plan' _ => Ended clean a plan step b plan') plan () := by
  cases execOk with
  | true =>
      exact gives_ended_through hget hstatus herror hfit.error hpath htypes
  | false =>
      exact gives_ended_failed hget hstatus herror hfit.error hpath
        (hfail rfl)

/-- After the end of a role in flight its step is verified if the role is ok. -/
theorem Standing.heeds (hbase : Attached calm roles base) {role : Assignment}
    (hrole : role ∈ roles) (hidx : role.idx = a.idx)
    (h : Standing clean roles base placed (a.idx :: flight) waiting limited
      run g) {plan plan' : Plan} (hplan : run.plan = some plan)
    {step step' : PlanStep} (hget : plan.getStep? role.stepId = some step)
    (hwork : Reworked clean role.stepId plan plan' step step')
    (hconcluded : Concluded clean a step' b) :
    Heeds clean roles base placed flight (run.done ++ [b]) plan' := by
  apply (h.plan plan hplan).move hbase hrole hget hwork (fun _ hi => hi)
    (fun i hi _ => List.mem_cons_of_mem _ hi) ?_ ⟨?_, ?_, ?_⟩
  · intro p hp hne
    rcases List.mem_append.mp hp with hp | hp
    · exact hp
    · rw [List.mem_singleton.mp hp, hconcluded.idx, hidx] at hne
      exact absurd rfl hne
  · intro hout
    rw [hidx] at hout
    exact absurd ((h.placed_iff a.idx).mpr (Or.inr List.mem_cons_self)) hout
  · intro hin
    rw [hidx] at hin
    exact absurd hin (List.nodup_cons.mp h.flying).1
  · intro p hp hpidx hok
    rcases List.mem_append.mp hp with hp | hp
    · have hin : p.idx ∈ run.done.map Assignment.idx :=
        List.mem_map_of_mem hp
      rw [hpidx, hidx] at hin
      exact absurd hin (h.apart a.idx List.mem_cons_self)
    · rw [List.mem_singleton.mp hp] at hok
      exact hconcluded.verified hok

section

variable {execOk : Bool} {gitBefore : Dict String}
  (hbase : Attached calm roles base) (hfit : Fit clean roles a)
  (hfail : execOk = false → a.ok = false)
include hbase hfit hfail

theorem gives_finishStepPlan
    (h : Standing clean roles base placed (a.idx :: flight) waiting limited
      run g) :
    Script.Gives (roleProtocol calm clean roles waves) calm
      (finishStepPlan config a execOk gitBefore)
      (fun b run' g' => g = g' ∧
        Settled clean roles base placed flight a run b run') run g := by
  obtain ⟨role, hrole, hidx, hname⟩ := hfit.role
  have hid : assignmentStepId a.idx a.role = role.stepId := by
    rw [← hidx, ← hname]
    rfl
  unfold finishStepPlan
  apply Script.Gives.read
  cases hplan : run.plan with
  | none =>
      refine ⟨rfl, rfl, hfit.clear, hfit.error, rfl, rfl, fun plan hsome => ?_⟩
      rw [hplan] at hsome
      cases hsome
  | some plan =>
      have hheeds := h.plan plan hplan
      have hpath : calm → storePath plan.planId = .ok () := by
        intro hcalm
        rw [hheeds.planId]
        exact (hbase.served hcalm).1
      have hfinish : Script.Gives (stepProtocol calm clean) calm
          (finishStep config (run.planConfig.getD {}) run.planMode a
            (run.priors a) execOk gitBefore)
          (fun b plan' _ => Settled clean roles base placed flight a run b
            { run with plan := some plan' }) plan () := by
        cases hget : plan.getStep role.stepId with
        | error e =>
            unfold finishStep getStep Script.Gives
            rw [Script.wp_run_bind, hid, hget]
            intro hcalm
            obtain ⟨step, hstep⟩ := hheeds.exists_step hbase hrole hcalm
            rw [plan.getStep_error hget] at hstep
            cases hstep
        | ok step =>
            have hstep := plan.getStep_eq_ok hget
            obtain ⟨built, hbuilt, hshape, herror, hfoot⟩ :=
              hheeds.find hrole hstep
            have hrunning : step.status = running := by
              apply hfoot.going
              rw [hidx]
              exact List.mem_cons_self
            have htypes : ∀ check ∈ step.acceptance,
                check.type ∈ roleCheckTypes := by
              rw [hshape.acceptance]
              exact (hbase.built role hrole built hbuilt).2.2.1
            apply Script.Gives.mono (gives_endStep hfit hfail
              (by rw [hid]; exact hstep) hrunning htypes herror hpath)
            rintro b plan' _ ⟨step', hwork, hconcluded⟩
            rw [hid] at hwork
            refine ⟨hconcluded.idx, fun _ => hconcluded.clear,
              hconcluded.error, rfl, rfl, ?_⟩
            rintro _ ⟨⟩
            exact h.heeds hbase hrole hidx hplan hstep hwork hconcluded
      apply Script.Gives.mono (gives_onPlan hfinish)
      rintro b _ _ ⟨rfl, plan', rfl, hsettled⟩
      exact ⟨rfl, hsettled⟩

theorem gives_conclude (hwaiting : a.idx ∉ waiting)
    (h : Standing clean roles base placed (a.idx :: flight) waiting limited
      run g) :
    Script.Gives (roleProtocol calm clean roles waves) calm
      (conclude config a execOk gitBefore)
      (fun _ run' g' => Standing clean roles base placed flight waiting limited
        run' g') run g := by
  obtain ⟨hnot, hnodup⟩ := List.nodup_cons.mp h.flying
  have hplaced : a.idx ∈ placed :=
    (h.placed_iff a.idx).mpr (Or.inr List.mem_cons_self)
  unfold conclude
  apply Script.Gives.bind (gives_finishStepPlan hbase hfit hfail h)
  rintro b run' _ ⟨rfl, hsettled⟩
  have hfresh : b.idx ∉ run.done.map Assignment.idx := by
    rw [hsettled.idx]
    exact h.apart a.idx List.mem_cons_self
  have hstand : Standing clean roles base placed flight waiting limited
      (run'.record b) { g with finished := g.finished ++ [b.idx] } := by
    apply h.record hfresh (by rw [hsettled.idx]; exact h.known _ hplaced) ?_ ?_
      hnodup (by rw [hsettled.idx]; exact hwaiting) hsettled.assigned
      hsettled.done hsettled.plan
      (fun hclean _ => Or.inl (active_of_clear (hsettled.clear hclean)
        (hsettled.error hclean)))
    · intro i
      rw [hsettled.idx]
      exact ⟨Or.inr, fun hi => hi.elim (fun heq => heq ▸ hplaced) id⟩
    · intro i
      rw [hsettled.idx, List.mem_cons]
      constructor
      · exact fun hi => ⟨Or.inr hi, fun heq => hnot (heq ▸ hi)⟩
      · exact fun hi => hi.1.resolve_left hi.2
  apply Script.Gives.bind (gives_finish
    (fun hin => hfresh ((h.finished b.idx).mp hin)) hstand)
  intro _ _ _ hdone
  exact Script.Gives.ask trivial fun _ _ => hdone

end

/-- The write of a reply to a role. -/
structure Records (clean : Prop) (a b : Assignment) : Prop where
  idx : b.idx = a.idx
  role : b.role = a.role
  planStatus : b.planStatus = a.planStatus
  error : clean → Unmasked a.error → Unmasked b.error

theorem Fit.records (h : Fit clean roles a) (hwrite : Records clean a b) :
    Fit clean roles b := by
  refine ⟨?_, fun hclean => ?_, fun hclean => hwrite.error hclean
    (h.error hclean)⟩
  · rw [hwrite.idx, hwrite.role]
    exact h.role
  · unfold Assignment.Clear
    rw [hwrite.planStatus]
    exact h.clear hclean

theorem records_afterExecutor (config : RunConfig) {reply : ExecutorReply}
    (delta : List String) (hreply : clean → Unmasked (executorError reply)) :
    Records clean a (a.afterExecutor config reply delta) := by
  have hafter := blind_afterExecutor config reply delta
  refine ⟨hafter.idx a, hafter.role a, hafter.planStatus a, ?_⟩
  intro hclean herror
  have hrecorded : Unmasked (a.recordExecutor reply).error := by
    have hunmasked := hreply hclean
    rcases reply with _ | ⟨_⟩ | ⟨_⟩
    · exact hunmasked
    · exact hunmasked
    · exact herror
  have hkept : Unmasked ((a.recordExecutor reply).keepDelta delta).error := by
    unfold Assignment.keepDelta
    split <;> exact hrecorded
  unfold Assignment.afterExecutor
  dsimp only
  split
  · exact hkept
  · unfold Assignment.requireFiles
    split
    · exact unmasked_of_head (c := 'e') (by
        simp only [String.toList_append]
        rfl) (by decide)
    · exact hkept

theorem gives_runExecutor {p : Prepared} (hbase : Attached calm roles base)
    (hfit : Fit clean roles p.assignment)
    (hwithin : ∀ j ∈ limited, SameWave waves j p.assignment.idx)
    (hnodup : (p.assignment.idx :: waiting).Nodup)
    (h : Standing clean roles base placed (p.assignment.idx :: flight)
      (p.assignment.idx :: waiting) limited run g) :
    Script.Gives (roleProtocol calm clean roles waves) calm
      (runExecutor config p)
      (fun _ run' g' => Standing clean roles base placed flight waiting limited
        run' g') run g := by
  unfold runExecutor
  apply gives_quiet (executorBaseline_quiet _)
  rintro ⟨gitBefore, fingerprints, wall⟩
  dsimp only
  apply Script.Gives.bind (Q := fun reply run' g' => run = run' ∧
    (clean → Unmasked (executorError reply)) ∧ Standing clean roles base placed
      (p.assignment.idx :: flight) waiting limited run g')
  · apply Script.Gives.ask
    · exact h.starts List.mem_cons_self hwithin
    · rintro reply ⟨_, hcandid⟩
      have hcalled := h.call [p.assignment.idx]
        (g.next (.execute (executorCall config p)) reply) hnodup rfl rfl
      have hlimited : (g.next (.execute (executorCall config p))
          reply).limited = limited := h.limit
      rw [hlimited] at hcalled
      exact ⟨rfl, hcandid, hcalled⟩
  rintro reply _ g' ⟨rfl, hreply, hstand⟩
  apply gives_quiet (executorDelta_quiet _ _ _ _)
  intro delta
  have hrecords := records_afterExecutor (a := p.assignment) config delta
    hreply
  apply gives_conclude hbase (hfit.records hrecords) (fun hok => hok)
  · rw [hrecords.idx]
    exact (List.nodup_cons.mp hnodup).1
  · rw [hrecords.idx]
    exact hstand

theorem gives_runExecutors (ps : List Prepared)
    (hbase : Attached calm roles base)
    (hfit : ∀ p ∈ ps, Fit clean roles p.assignment)
    (hwithin : ∀ j ∈ limited, ∀ i ∈ ps.map fun p => p.assignment.idx,
      SameWave waves j i)
    (hnodup : (ps.map fun p => p.assignment.idx).Nodup)
    (h : Standing clean roles base placed
      (ps.map (fun p => p.assignment.idx) ++ flight)
      (ps.map fun p => p.assignment.idx) limited run g) :
    Script.Gives (roleProtocol calm clean roles waves) calm
      (runExecutors config ps)
      (fun _ run' g' => Standing clean roles base placed flight [] limited
        run' g') run g := by
  induction ps generalizing run g with
  | nil => exact h
  | cons p rest ih =>
      unfold runExecutors
      apply Script.Gives.bind (gives_runExecutor hbase
        (hfit p List.mem_cons_self)
        (fun j hj => hwithin j hj _ List.mem_cons_self) hnodup h)
      intro _ run' g' hstand
      exact ih (fun q hq => hfit q (List.mem_cons_of_mem _ hq))
        (fun j hj i hi => hwithin j hj i (List.mem_cons_of_mem _ hi))
        (List.nodup_cons.mp hnodup).2 hstand

theorem records_chat {reply : ChatReply}
    (hreply : clean → Unmasked (chatError reply)) :
    Records clean a (a.recordChat reply) := by
  have hrecord := blind_recordChat reply
  refine ⟨hrecord.idx a, hrecord.role a, hrecord.planStatus a, ?_⟩
  intro hclean herror
  have hunmasked := hreply hclean
  cases reply with
  | error message => exact hunmasked
  | ok response =>
      have hempty : Unmasked "empty response from provider" := by
        unfold Unmasked
        decide
      simp only [Assignment.recordChat]
      split_ifs
      · exact hunmasked
      · exact hempty
      · exact herror

theorem recordChat_failed {reply : ChatReply} (h : chatFailed reply = true) :
    (a.recordChat reply).ok = false := by
  cases reply with
  | error message => rfl
  | ok response =>
      have herror : response.error ≠ "" := by simpa [chatFailed] using h
      simp only [Assignment.recordChat, if_pos herror]

/-- What a chat role's end hands on: the response, if at the spend limit. -/
def HandsOn (clean : Prop) (limited : List Int)
    (stop : Option ChatResponse) : Prop :=
  (stop = none → limited = []) ∧
    ∀ response, stop = some response → clean → Unmasked response.error

theorem gives_finalizeChat {p : Prepared} {reply : ChatReply}
    (hbase : Attached calm roles base)
    (hfit : Fit clean roles p.assignment)
    (hreply : clean → Unmasked (chatError reply))
    (h : Standing clean roles base placed (p.assignment.idx :: flight) []
      limited run g) :
    Script.Gives (roleProtocol calm clean roles waves) calm
      (finalizeChat config p reply)
      (fun stop run' g' => HandsOn clean (limitedItems [(p, reply)]) stop ∧
        Standing clean roles base placed flight [] limited run' g') run g := by
  have hrecords := records_chat (a := p.assignment) hreply
  unfold finalizeChat
  dsimp only
  apply gives_quiet (noteReply_quiet reply _)
  intro _
  apply Script.Gives.read
  have hfail : (if run.gatesOn then !chatFailed reply
      else (p.assignment.recordChat reply).ok) = false →
        (p.assignment.recordChat reply).ok = false := by
    intro hnot
    split at hnot
    · exact recordChat_failed (by simpa using hnot)
    · exact hnot
  apply Script.Gives.bind (gives_conclude hbase (hfit.records hrecords) hfail
    List.not_mem_nil (by rw [hrecords.idx]; exact h))
  intro _ run' g' hstand
  cases reply with
  | error message =>
      exact ⟨⟨fun _ => rfl, fun _ hnone => nomatch hnone⟩, hstand⟩
  | ok response =>
      refine ⟨⟨fun hnone => ?_, fun other hsome hclean => ?_⟩, hstand⟩
      · cases hlimit : response.spendLimited with
        | false => simp [limitedItems, spendLimited, hlimit]
        | true => simp [hlimit] at hnone
      · split at hsome
        · obtain rfl := Option.some.inj hsome
          exact hreply hclean
        · cases hsome

theorem gives_finalizeChats {items : List (Prepared × ChatReply)}
    (hbase : Attached calm roles base)
    (hfit : ∀ item ∈ items, Fit clean roles item.1.assignment)
    (hreply : clean → ∀ item ∈ items, Unmasked (chatError item.2))
    (h : Standing clean roles base placed
      (items.map (fun item => item.1.assignment.idx) ++ flight) [] limited
      run g) :
    Script.Gives (roleProtocol calm clean roles waves) calm
      (finalizeChats config items)
      (fun stop run' g' => HandsOn clean (limitedItems items) stop ∧
        Standing clean roles base placed flight [] limited run' g') run g := by
  induction items generalizing run g with
  | nil => exact ⟨⟨fun _ => rfl, fun _ hnone => nomatch hnone⟩, h⟩
  | cons item rest ih =>
      unfold finalizeChats
      apply Script.Gives.bind (gives_finalizeChat hbase
        (hfit item List.mem_cons_self)
        (fun hclean => hreply hclean item List.mem_cons_self) h)
      rintro stop run' g' ⟨hfirst, hstand⟩
      apply Script.Gives.bind (ih
        (fun p hp => hfit p (List.mem_cons_of_mem _ hp))
        (fun hclean p hp => hreply hclean p (List.mem_cons_of_mem _ hp))
        hstand)
      rintro later run'' g'' ⟨hlater, hdone⟩
      have happend : limitedItems (item :: rest) =
          limitedItems [item] ++ limitedItems rest :=
        limitedItems_append [item] rest
      refine ⟨⟨fun hnone => ?_, fun response hsome => ?_⟩, hdone⟩
      · cases later with
        | some response => cases hnone
        | none =>
            rw [happend, hfirst.1 hnone, hlater.1 rfl]
            rfl
      · cases later with
        | some response => exact hlater.2 _ hsome
        | none => exact hfirst.2 response hsome

end Phases

end Voly.A2A
