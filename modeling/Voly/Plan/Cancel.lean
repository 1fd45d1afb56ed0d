/-
A run and a cancellation of the same plan on one store, in every interleaving.
-/
import Voly.Plan.Reload
import Voly.Plan.Run

namespace Voly

open Python Interaction StepStatus

/-- The two programs. -/
inductive Party where
  | runner | canceller
deriving DecidableEq, Repr

@[reducible] def Party.Returns : Party → Type
  | .runner => Except PyError PlanRunResult × Plan
  | .canceller => Except PyError Plan

/-- What was seen of a cancellation: the plan it loaded, and whether it has
saved. -/
structure CancelView where
  loaded : Option Plan := none
  saved : Bool := false

def CancelView.next (view : CancelView) (op : PlanOp) (reply : PlanReply op) :
    CancelView :=
  match op, reply with
  | .load _, .ok (some plan) => { view with loaded := some plan }
  | .save _, _ => { view with saved := true }
  | _, _ => view

/-- A cancellation loads the plan and saves it once, aborted. -/
def cancelProtocol (planId : String) :
    Protocol PlanOp PlanReply CancelView where
  allows view op :=
    match op with
    | .load other => other = planId ∧ view.saved = false
    | .time => True
    | .save plan => view.saved = false ∧ ∃ loaded, view.loaded = some loaded ∧
        plan.planId = loaded.planId ∧ plan.steps = loaded.steps ∧
        plan.status = .aborted
    | _ => False
  relies _ _ _ := True
  next := CancelView.next

theorem wp_cancel (planId error : String) :
    (cancel planId error).wp (cancelProtocol planId) (fun _ _ => True) {} := by
  unfold cancel
  rw [Prog.wp_bind, Script.wp_started]
  refine wp_storeLoad (fun _ => trivial) (fun _ => ⟨rfl, rfl⟩) ?_
  rintro (e | _ | loaded) _ _
  · trivial
  · trivial
  · dsimp only
    rw [Prog.wp_bind, Script.wp_started]
    refine wp_save trivial ?_ ?_ ?_
    · exact fun _ _ _ => trivial
    · exact fun _ _ => ⟨rfl, loaded, rfl, rfl, rfl, rfl⟩
    · rintro now (e | u) _ _ <;> trivial

@[reducible] def Party.View : Party → Type
  | .runner => RunView
  | .canceller => CancelView

def Exchange.isSave (exchange : Exchange) : Bool :=
  match exchange.op with
  | .save _ => true
  | _ => false

/-- The log, latest first, split at the save of the cancellation. -/
def sinceCancel : List (Party × Exchange) →
    Option (List (Party × Exchange) × List (Party × Exchange))
  | [] => none
  | entry :: rest =>
      match sinceCancel rest with
      | some (later, earlier) => some (entry :: later, earlier)
      | none =>
          if entry.1 = .canceller ∧ entry.2.isSave = true then
            some ([], rest)
          else none

/-- The start of the first call of a wave, of a step or of a retry. -/
def RunView.opensUnit (view : RunView) (op : PlanOp) : Bool :=
  match op with
  | .callStart _ _ _ => !view.opened
  | _ => false

/-- A load, a save, or the start of a new unit. -/
def RunView.accesses (view : RunView) (op : PlanOp) : Bool :=
  match op with
  | .load _ => true
  | .save _ => true
  | op => view.opensUnit op

section Since

variable (plan : Plan) (earlier : List (Party × Exchange))

/-- The view of the run after the given log. -/
def runnerView (log : List (Party × Exchange)) : RunView :=
  RunView.after plan (own .runner log)

def firstAccess : List (Party × Exchange) → Option PlanOp
  | [] => none
  | entry :: later =>
      match firstAccess later with
      | some op => some op
      | none =>
          if entry.1 = .runner ∧
              (runnerView plan (later ++ earlier)).accesses entry.2.op then
            some entry.2.op
          else none

/-- The run starts no wave, step or retry but those already begun. -/
def StartsNoUnit : List (Party × Exchange) → Prop
  | [] => True
  | entry :: later =>
      StartsNoUnit later ∧
        (entry.1 = .runner →
          (runnerView plan (later ++ earlier)).opensUnit entry.2.op = false)

/-- Nothing new was started, and the persisted plan is aborted. -/
structure CancelKept (files : String → Option Plan)
    (later : List (Party × Exchange)) : Prop where
  quiet : StartsNoUnit plan earlier later
  persisted : ∃ stored, files plan.planId = some stored ∧
    stored.status = .aborted

/-- What the run has made of the cancellation so far, by its first access. -/
structure Heard (files : String → Option Plan)
    (later : List (Party × Exchange)) (view : RunView) : Prop where
  unheard : firstAccess plan earlier later = none →
    view.aborted = false ∧ StartsNoUnit plan earlier later ∧
    (∀ entry ∈ later, entry.1 = .runner → entry.2.isSave = false) ∧
    ∃ stored, files plan.planId = some stored ∧ stored.status = .aborted ∧
      stored.Storable
  loaded : ∀ planId, firstAccess plan earlier later = some (.load planId) →
    view.aborted = true ∧ CancelKept plan earlier files later
  saved : ∀ other, firstAccess plan earlier later = some (.save other) →
    view.aborted = false ∧ ∃ stored, files plan.planId = some stored ∧
      stored.status ≠ .aborted
  started : ∀ op, firstAccess plan earlier later = some op →
    (∀ planId, op ≠ .load planId) → (∀ other, op ≠ .save other) →
    ¬ StartsNoUnit plan earlier later

theorem Heard.kept_iff {files : String → Option Plan}
    {later : List (Party × Exchange)} {view : RunView}
    (h : Heard plan earlier files later view)
    (hsaved : ∃ entry ∈ later, entry.1 = .runner ∧ entry.2.isSave = true) :
    CancelKept plan earlier files later ↔
      ∃ planId, firstAccess plan earlier later = some (.load planId) := by
  constructor
  · intro hkept
    cases hfirst : firstAccess plan earlier later with
    | none =>
        obtain ⟨entry, hmem, hwho, hsave⟩ := hsaved
        have hnot := (h.unheard hfirst).2.2.1 entry hmem hwho
        exact absurd (hnot.symm.trans hsave) (by decide)
    | some op =>
        by_cases hload : ∃ planId, op = .load planId
        · obtain ⟨planId, rfl⟩ := hload
          exact ⟨planId, rfl⟩
        · by_cases hsave : ∃ other, op = .save other
          · obtain ⟨other, rfl⟩ := hsave
            obtain ⟨_, stored, hfile, hne⟩ := h.saved other hfirst
            obtain ⟨stored', hfile', habort⟩ := hkept.persisted
            rw [hfile] at hfile'
            cases hfile'
            exact absurd habort hne
          · exact absurd hkept.quiet (h.started op hfirst
              (fun planId heq => hload ⟨planId, heq⟩)
              fun other heq => hsave ⟨other, heq⟩)
  · rintro ⟨planId, hfirst⟩
    exact (h.loaded planId hfirst).2

end Since

section Pool

variable (config : RunnerConfig) (mode cwd : String) (timeout : Option Timeout)
  (plan : Plan) (error : String) (criteria : CriteriaCompiler)

def cancelProcs : (who : Party) → Prog PlanOp PlanReply who.Returns
  | .runner => run config mode cwd timeout plan
  | .canceller => cancel plan.planId error

def partyProtocol : (who : Party) → Protocol PlanOp PlanReply who.View
  | .runner => runProtocol config (config.runMode mode)
  | .canceller => cancelProtocol plan.planId

def runAndCancel (files : String → Option Plan)
    (schedule : List (Party × PlanOracle)) :
    Pool PlanOp PlanReply Party (PlanWorld Party) Party.Returns :=
  Pool.run (serveStore criteria)
    ⟨⟨files, []⟩, cancelProcs config mode cwd timeout plan error⟩ schedule

/-- What every interleaving keeps. -/
structure Cancelling (world : PlanWorld Party)
    (views : (who : Party) → who.View) : Prop where
  keyed : Keyed world.files
  follows : views .runner = runnerView plan world.log
  sound : (views .runner).broken = false
  planId : (views .runner).plan.planId = plan.planId
  loaded : ∀ found, (views .canceller).loaded = some found →
    found.planId = plan.planId ∧ found.Storable
  before : sinceCancel world.log = none → (views .canceller).saved = false ∧
    (views .runner).aborted = false ∧
    ((views .runner).entered = true → ∃ stored,
      world.files plan.planId = some stored ∧ stored.status ≠ .aborted)
  since : ∀ later earlier, sinceCancel world.log = some (later, earlier) →
    (views .canceller).saved = true ∧
    Heard plan earlier world.files later (views .runner)

variable {config mode cwd timeout plan error criteria}

theorem runnerView_runner (exchange : Exchange)
    (log : List (Party × Exchange)) :
    runnerView plan ((.runner, exchange) :: log) =
      (runnerView plan log).next exchange.op exchange.reply := by
  simp [runnerView, RunView.after]

theorem runnerView_canceller (exchange : Exchange)
    (log : List (Party × Exchange)) :
    runnerView plan ((.canceller, exchange) :: log) = runnerView plan log := by
  simp [runnerView, own_other]

theorem showsAbort_readFile (criteria : CriteriaCompiler)
    (files : String → Option Plan) (planId : String) :
    Exchange.showsAbort ⟨.load planId, readFile criteria files planId⟩ = true ↔
      ∃ stored, files planId = some stored ∧ stored.status = .aborted ∧
        stored.Storable := by
  constructor
  · intro h
    cases hread : readFile criteria files planId with
    | error e =>
        rw [hread] at h
        cases h
    | ok found =>
        rw [hread] at h
        cases found with
        | none => cases h
        | some fresh =>
            obtain ⟨stored, hfile, rfl, hstorable⟩ := readFile_some hread
            refine ⟨stored, hfile, ?_, hstorable⟩
            exact of_decide_eq_true h
  · rintro ⟨stored, hfile, habort, hstorable⟩
    rw [readFile_of_storable hfile hstorable]
    simp [Exchange.showsAbort, Plan.reloaded, habort]

section Step

variable {earlier later : List (Party × Exchange)}
  {files files' : String → Option Plan} {view view' : RunView}

theorem firstAccess_some {op : PlanOp}
    (h : firstAccess plan earlier later = some op) (entry : Party × Exchange) :
    firstAccess plan earlier (entry :: later) = some op := by
  simp [firstAccess, h]

theorem firstAccess_quiet {entry : Party × Exchange}
    (hquiet : entry.1 = .runner →
      (runnerView plan (later ++ earlier)).accesses entry.2.op = false) :
    firstAccess plan earlier (entry :: later) =
      firstAccess plan earlier later := by
  rw [firstAccess]
  cases firstAccess plan earlier later with
  | some op => rfl
  | none =>
      dsimp only
      rw [if_neg]
      rintro ⟨hwho, haccess⟩
      exact absurd ((hquiet hwho).symm.trans haccess) (by decide)

theorem firstAccess_first {exchange : Exchange}
    (h : firstAccess plan earlier later = none)
    (haccess : (runnerView plan (later ++ earlier)).accesses exchange.op = true) :
    firstAccess plan earlier ((.runner, exchange) :: later) =
      some exchange.op := by
  simp [firstAccess, h, haccess]

theorem opensUnit_of_quiet {op : PlanOp}
    (h : view.accesses op = false) : view.opensUnit op = false := by
  cases op with
  | load | save => rfl
  | time | monotonic | newTaskId | git | inspect | pick | callStart | callEnd =>
      exact h

theorem Heard.of_first {op : PlanOp}
    (hfirst : firstAccess plan earlier later = some op)
    (hload : ∀ planId, op = .load planId →
      view.aborted = true ∧ CancelKept plan earlier files later)
    (hsave : ∀ other, op = .save other → view.aborted = false ∧
      ∃ stored, files plan.planId = some stored ∧ stored.status ≠ .aborted)
    (hstart : (∀ planId, op ≠ .load planId) → (∀ other, op ≠ .save other) →
      ¬ StartsNoUnit plan earlier later) :
    Heard plan earlier files later view := by
  have hop {other : PlanOp} (h : firstAccess plan earlier later = some other) :
      op = other := Option.some.inj (hfirst.symm.trans h)
  refine ⟨?_, fun planId h => hload planId (hop h),
    fun other h => hsave other (hop h), ?_⟩
  · intro hnone
    rw [hfirst] at hnone
    cases hnone
  · intro other h
    rw [← hop h]
    exact hstart

section

variable (h : Heard plan earlier files later view)
include h

theorem Heard.quiet {entry : Party × Exchange}
    (hquiet : entry.1 = .runner →
      (runnerView plan (later ++ earlier)).accesses entry.2.op = false)
    (haborted : view'.aborted = view.aborted) :
    Heard plan earlier files (entry :: later) view' := by
  have hfirst := firstAccess_quiet hquiet
  have hstarts : StartsNoUnit plan earlier (entry :: later) ↔
      StartsNoUnit plan earlier later :=
    ⟨fun h => h.1, fun h => ⟨h, fun hwho => opensUnit_of_quiet (hquiet hwho)⟩⟩
  constructor
  · intro hnone
    rw [hfirst] at hnone
    obtain ⟨hpresent, hstart, hsaves, hfile⟩ := h.unheard hnone
    refine ⟨haborted.trans hpresent, hstarts.mpr hstart, ?_, hfile⟩
    rw [List.forall_mem_cons]
    refine ⟨fun hwho => ?_, hsaves⟩
    have hno := hquiet hwho
    unfold Exchange.isSave
    revert hno
    cases entry.2.op with
    | save => exact fun hno => absurd hno (by simp [RunView.accesses])
    | load | time | monotonic | newTaskId | git | inspect | pick | callStart
    | callEnd => exact fun _ => rfl
  · intro planId hload
    rw [hfirst] at hload
    obtain ⟨habort, hkept⟩ := h.loaded planId hload
    exact ⟨haborted.trans habort, hstarts.mpr hkept.quiet, hkept.persisted⟩
  · intro other hsave
    rw [hfirst] at hsave
    obtain ⟨hpresent, hfile⟩ := h.saved other hsave
    exact ⟨haborted.trans hpresent, hfile⟩
  · intro op hop hload hsave
    rw [hfirst] at hop
    rw [hstarts]
    exact h.started op hop hload hsave

theorem Heard.load :
    Heard plan earlier files
      ((.runner, ⟨.load plan.planId, readFile criteria files plan.planId⟩) ::
        later)
      (view.next (.load plan.planId) (readFile criteria files plan.planId)) := by
  have hshows := showsAbort_readFile criteria files plan.planId
  generalize readFile criteria files plan.planId = reply at hshows
  have hstarts : StartsNoUnit plan earlier
      ((.runner, ⟨.load plan.planId, reply⟩) :: later) ↔
      StartsNoUnit plan earlier later :=
    ⟨fun h => h.1, fun h => ⟨h, fun _ => rfl⟩⟩
  have haborted : (view.next (.load plan.planId) reply).aborted =
      (view.aborted || Exchange.showsAbort ⟨.load plan.planId, reply⟩) := rfl
  cases hfirst : firstAccess plan earlier later with
  | none =>
      obtain ⟨_, hstart, _, stored, hfile, habort, hstorable⟩ :=
        h.unheard hfirst
      refine .of_first (firstAccess_first hfirst rfl) ?_ (fun _ h => nomatch h)
        fun hnot => absurd rfl (hnot plan.planId)
      intro _ _
      refine ⟨?_, hstarts.mpr hstart, stored, hfile, habort⟩
      rw [haborted, hshows.mpr ⟨stored, hfile, habort, hstorable⟩,
        Bool.or_true]
  | some first =>
      refine .of_first (firstAccess_some hfirst _) ?_ ?_ ?_
      · rintro planId rfl
        obtain ⟨habort, hkept⟩ := h.loaded planId hfirst
        refine ⟨?_, hstarts.mpr hkept.quiet, hkept.persisted⟩
        rw [haborted, habort, Bool.true_or]
      · rintro other rfl
        obtain ⟨hpresent, stored, hfile, hne⟩ := h.saved other hfirst
        refine ⟨?_, stored, hfile, hne⟩
        rw [haborted, hpresent, Bool.false_or, ← Bool.not_eq_true, hshows]
        rintro ⟨found, hfound, habort, _⟩
        rw [hfile] at hfound
        cases hfound
        exact hne habort
      · rw [hstarts]
        exact h.started first hfirst

theorem Heard.save {saved : Plan} (hplanId : saved.planId = plan.planId)
    (habort : saved.status = .aborted ↔ view.aborted = true) :
    Heard plan earlier (Function.update files saved.planId (some saved))
      ((.runner, ⟨.save saved, .ok ()⟩) :: later)
      (view.next (.save saved) (.ok ())) := by
  have hfile : Function.update files saved.planId (some saved) plan.planId =
      some saved := by
    rw [hplanId, Function.update_self]
  have hstarts : StartsNoUnit plan earlier
      ((.runner, ⟨.save saved, .ok ()⟩) :: later) ↔
      StartsNoUnit plan earlier later :=
    ⟨fun h => h.1, fun h => ⟨h, fun _ => rfl⟩⟩
  have hkept (hpresent : view.aborted = false) :
      view.aborted = false ∧ ∃ stored,
        Function.update files saved.planId (some saved) plan.planId =
          some stored ∧ stored.status ≠ .aborted := by
    refine ⟨hpresent, saved, hfile, ?_⟩
    rw [ne_eq, habort, hpresent]
    decide
  cases hfirst : firstAccess plan earlier later with
  | none =>
      exact .of_first (firstAccess_first hfirst rfl) (fun _ h => nomatch h)
        (fun _ _ => hkept (h.unheard hfirst).1)
        fun _ hnot => absurd rfl (hnot saved)
  | some first =>
      refine .of_first (firstAccess_some hfirst _) ?_ ?_ ?_
      · rintro planId rfl
        obtain ⟨haborted, hquiet, _⟩ := h.loaded planId hfirst
        exact ⟨haborted, hstarts.mpr hquiet, saved, hfile,
          habort.mpr haborted⟩
      · rintro other rfl
        exact hkept (h.saved other hfirst).1
      · rw [hstarts]
        exact h.started first hfirst

theorem Heard.callStart (hview : view = runnerView plan (later ++ earlier))
    {step : PlanStep} {current : Plan} {instruction : String}
    (hpresent : view.aborted = false) :
    Heard plan earlier files
      ((.runner, ⟨.callStart step current instruction, ()⟩) :: later)
      (view.next (.callStart step current instruction) ()) := by
  cases hopened : view.opened with
  | true =>
      refine h.quiet ?_ rfl
      intro _
      rw [← hview]
      simp [RunView.accesses, RunView.opensUnit, hopened]
  | false =>
      have hopens : (runnerView plan (later ++ earlier)).opensUnit
          (.callStart step current instruction) = true := by
        rw [← hview]
        simp [RunView.opensUnit, hopened]
      have hnot : ¬ StartsNoUnit plan earlier
          ((.runner, ⟨.callStart step current instruction, ()⟩) :: later) :=
        fun hstart => absurd ((hstart.2 rfl).symm.trans hopens) (by decide)
      cases hfirst : firstAccess plan earlier later with
      | none =>
          exact .of_first (firstAccess_first hfirst hopens)
            (fun _ h => nomatch h) (fun _ h => nomatch h) fun _ _ => hnot
      | some first =>
          refine .of_first (firstAccess_some hfirst _) ?_ ?_ fun _ _ => hnot
          · rintro planId rfl
            obtain ⟨habort, _⟩ := h.loaded planId hfirst
            exact absurd (hpresent.symm.trans habort) (by decide)
          · rintro other rfl
            exact h.saved other hfirst

end

end Step

theorem sinceCancel_runner (exchange : Exchange)
    (log : List (Party × Exchange)) :
    sinceCancel ((.runner, exchange) :: log) =
      (sinceCancel log).map fun parts =>
        ((.runner, exchange) :: parts.1, parts.2) := by
  rw [sinceCancel]
  cases sinceCancel log with
  | some parts => rfl
  | none => simp

theorem sinceCancel_append {log later earlier : List (Party × Exchange)}
    (h : sinceCancel log = some (later, earlier)) :
    runnerView plan log = runnerView plan (later ++ earlier) := by
  induction log generalizing later with
  | nil => cases h
  | cons entry rest ih =>
      rw [sinceCancel] at h
      cases hrest : sinceCancel rest with
      | some parts =>
          obtain ⟨later', earlier'⟩ := parts
          rw [hrest] at h
          cases h
          have hsame := ih hrest
          obtain ⟨who, exchange⟩ := entry
          cases who with
          | runner =>
              rw [List.cons_append, runnerView_runner, runnerView_runner, hsame]
          | canceller =>
              rw [List.cons_append, runnerView_canceller, runnerView_canceller,
                hsame]
      | none =>
          rw [hrest] at h
          dsimp only at h
          split at h
          case isTrue hcancel =>
            cases h
            obtain ⟨who, exchange⟩ := entry
            obtain ⟨hwho, _⟩ := hcancel
            dsimp only at hwho
            rw [hwho, List.nil_append, runnerView_canceller]
          case isFalse => cases h

section

variable {world : PlanWorld Party} {views : (who : Party) → who.View}
  (h : Cancelling plan world views)
include h

theorem Cancelling.runner {files : String → Option Plan} {op : PlanOp}
    {reply : PlanReply op} (hkeyed : Keyed files)
    (hsound : ((views .runner).next op reply).broken = false)
    (hplanId : ((views .runner).next op reply).plan.planId = plan.planId)
    (hbefore : (views .runner).aborted = false →
      ((views .runner).entered = true → ∃ stored,
        world.files plan.planId = some stored ∧ stored.status ≠ .aborted) →
      ((views .runner).next op reply).aborted = false ∧
        (((views .runner).next op reply).entered = true → ∃ stored,
          files plan.planId = some stored ∧ stored.status ≠ .aborted))
    (hsince : ∀ later earlier,
      views .runner = runnerView plan (later ++ earlier) →
      Heard plan earlier world.files later (views .runner) →
      Heard plan earlier files ((.runner, ⟨op, reply⟩) :: later)
        ((views .runner).next op reply)) :
    Cancelling plan ⟨files, (.runner, ⟨op, reply⟩) :: world.log⟩
      (Function.update views .runner ((views .runner).next op reply)) where
  keyed := hkeyed
  follows := by
    rw [Function.update_self, runnerView_runner, ← h.follows]
  sound := by
    rw [Function.update_self]
    exact hsound
  planId := by
    rw [Function.update_self]
    exact hplanId
  loaded := by
    rw [Function.update_of_ne (by decide)]
    exact h.loaded
  before := by
    intro hnone
    rw [sinceCancel_runner, Option.map_eq_none_iff] at hnone
    obtain ⟨hsaved, hpresent, hfile⟩ := h.before hnone
    rw [Function.update_of_ne (by decide), Function.update_self]
    exact ⟨hsaved, hbefore hpresent hfile⟩
  since := by
    intro later earlier hsplit
    rw [sinceCancel_runner, Option.map_eq_some_iff] at hsplit
    obtain ⟨⟨later', earlier'⟩, hparts, heq⟩ := hsplit
    cases heq
    obtain ⟨hsaved, hheard⟩ := h.since later' earlier' hparts
    rw [Function.update_of_ne (by decide), Function.update_self]
    refine ⟨hsaved, hsince later' earlier' ?_ hheard⟩
    rw [h.follows, sinceCancel_append hparts]

theorem Cancelling.canceller {op : PlanOp} {reply : PlanReply op}
    (hop : ∀ saved, op ≠ .save saved)
    (hloaded : ∀ found, ((views .canceller).next op reply).loaded = some found →
      found.planId = plan.planId ∧ found.Storable) :
    Cancelling plan ⟨world.files, (.canceller, ⟨op, reply⟩) :: world.log⟩
      (Function.update views .canceller
        ((views .canceller).next op reply)) := by
  have hsave : Exchange.isSave ⟨op, reply⟩ = false := by
    cases op with
    | save saved => exact absurd rfl (hop saved)
    | load | time | monotonic | newTaskId | git | inspect | pick | callStart
    | callEnd => rfl
  have hsaved : ((views .canceller).next op reply).saved =
      (views .canceller).saved := by
    unfold CancelView.next
    split
    case h_1 => rfl
    case h_2 saved _ => exact absurd rfl (hop saved)
    case h_3 => rfl
  have hsplit : sinceCancel ((.canceller, ⟨op, reply⟩) :: world.log) =
      (sinceCancel world.log).map fun parts =>
        ((.canceller, ⟨op, reply⟩) :: parts.1, parts.2) := by
    rw [sinceCancel]
    cases sinceCancel world.log with
    | some parts => rfl
    | none => simp [hsave]
  constructor
  · exact h.keyed
  · rw [Function.update_of_ne (by decide), runnerView_canceller]
    exact h.follows
  · rw [Function.update_of_ne (by decide)]
    exact h.sound
  · rw [Function.update_of_ne (by decide)]
    exact h.planId
  · rw [Function.update_self]
    exact hloaded
  · intro hnone
    rw [hsplit, Option.map_eq_none_iff] at hnone
    rw [Function.update_self, Function.update_of_ne (by decide), hsaved]
    exact h.before hnone
  · intro later earlier hsome
    rw [hsplit, Option.map_eq_some_iff] at hsome
    obtain ⟨⟨later', earlier'⟩, hparts, heq⟩ := hsome
    cases heq
    obtain ⟨hdone, hheard⟩ := h.since later' earlier' hparts
    rw [Function.update_self, Function.update_of_ne (by decide), hsaved]
    refine ⟨hdone, hheard.quiet ?_ rfl⟩
    intro hwho
    cases hwho

theorem Cancelling.cancel {saved : Plan} (hplanId : saved.planId = plan.planId)
    (hstorable : saved.Storable) (habort : saved.status = .aborted)
    (hfirst : (views .canceller).saved = false) :
    Cancelling plan
      ⟨Function.update world.files saved.planId (some saved),
        (.canceller, ⟨.save saved, .ok ()⟩) :: world.log⟩
      (Function.update views .canceller
        ((views .canceller).next (.save saved) (.ok ()))) := by
  have hnone : sinceCancel world.log = none := by
    by_contra hsome
    obtain ⟨⟨later, earlier⟩, hparts⟩ := Option.ne_none_iff_exists'.mp hsome
    exact absurd (hfirst.symm.trans (h.since later earlier hparts).1) (by decide)
  have hsplit : sinceCancel
      ((.canceller, ⟨.save saved, .ok ()⟩) :: world.log) =
      some ([], world.log) := by
    rw [sinceCancel, hnone]
    rfl
  constructor
  · exact h.keyed.save saved
  · rw [Function.update_of_ne (by decide), runnerView_canceller]
    exact h.follows
  · rw [Function.update_of_ne (by decide)]
    exact h.sound
  · rw [Function.update_of_ne (by decide)]
    exact h.planId
  · rw [Function.update_self]
    exact h.loaded
  · intro hnone'
    rw [hsplit] at hnone'
    cases hnone'
  · intro later earlier hsome
    rw [hsplit] at hsome
    cases hsome
    rw [Function.update_self, Function.update_of_ne (by decide)]
    refine ⟨rfl, fun _ => ⟨(h.before hnone).2.1, trivial, by simp, saved, ?_,
      habort, hstorable⟩, ?_, ?_, ?_⟩
    · change Function.update world.files saved.planId (some saved) plan.planId =
        some saved
      rw [hplanId, Function.update_self]
    · intro _ hload
      cases hload
    · intro _ hsave
      cases hsave
    · intro _ hop
      cases hop

theorem runner_serves (op : PlanOp) (proposed : PlanReply op)
    (hallow : (runProtocol config (config.runMode mode)).allows
      (views .runner) op) :
    Cancelling plan (serveStore criteria .runner world op proposed).2
      (Function.update views .runner ((views .runner).next op
        (serveStore criteria .runner world op proposed).1)) := by
  cases op with
  | load planId =>
      obtain ⟨rfl, hentered⟩ := hallow
      rw [h.planId]
      refine h.runner h.keyed h.sound h.planId ?_ fun _ _ _ hheard => hheard.load
      intro hpresent hfile
      refine ⟨?_, hfile⟩
      obtain ⟨stored, hstored, hne⟩ := hfile hentered
      change ((views .runner).aborted || Exchange.showsAbort ⟨.load plan.planId,
        readFile criteria world.files plan.planId⟩) = false
      rw [hpresent, Bool.false_or, ← Bool.not_eq_true, showsAbort_readFile]
      rintro ⟨found, hfound, habort, _⟩
      rw [hstored] at hfound
      cases hfound
      exact hne habort
  | save saved =>
      obtain ⟨_, hevolves, _⟩ := hallow
      have hplanId := hevolves.planId.trans h.planId
      have habort : saved.status = .aborted ↔ (views .runner).aborted = true :=
        ⟨hevolves.aborted.shown, fun haborted =>
          (hevolves.aborted.adopted haborted).resolve_left (by simp [h.sound])⟩
      refine h.runner (h.keyed.save saved) ?_ hplanId ?_
        fun _ _ _ hheard => hheard.save hplanId habort
      · change ((views .runner).broken || !(Except.isOk (.ok ()))) = false
        rw [h.sound]
        rfl
      · intro hpresent _
        refine ⟨hpresent, fun _ => ⟨saved, ?_, ?_⟩⟩
        · change Function.update world.files saved.planId (some saved)
            plan.planId = some saved
          rw [hplanId, Function.update_self]
        · rw [ne_eq, habort, hpresent]
          decide
  | callStart step current instruction =>
      have hcall : MayCall config (config.runMode mode) (views .runner) step
          current instruction := hallow
      exact h.runner h.keyed h.sound (hcall.evolves.planId.trans h.planId)
        (fun hpresent hfile => ⟨hpresent, hfile⟩)
        fun _ _ hview hheard => hheard.callStart hview hcall.present
  | time | monotonic | newTaskId | git | inspect | pick | callEnd =>
      exact h.runner h.keyed h.sound h.planId
        (fun hpresent hfile => ⟨hpresent, hfile⟩)
        fun _ _ _ hheard => hheard.quiet (fun _ => rfl) rfl

theorem canceller_serves (op : PlanOp) (proposed : PlanReply op)
    (hallow : (cancelProtocol plan.planId).allows (views .canceller) op) :
    Cancelling plan (serveStore criteria .canceller world op proposed).2
      (Function.update views .canceller ((views .canceller).next op
        (serveStore criteria .canceller world op proposed).1)) := by
  cases op with
  | load planId =>
      obtain ⟨rfl, _⟩ := hallow
      refine h.canceller (fun saved hop => by cases hop) ?_
      intro found hfound
      change ((views .canceller).next (.load plan.planId)
        (readFile criteria world.files plan.planId)).loaded = some found
        at hfound
      cases hread : readFile criteria world.files plan.planId with
      | error e =>
          rw [hread] at hfound
          exact h.loaded found hfound
      | ok result =>
          rw [hread] at hfound
          cases result with
          | none => exact h.loaded found hfound
          | some fresh =>
              cases hfound
              obtain ⟨stored, hfile, rfl, hstorable⟩ := readFile_some hread
              exact ⟨h.keyed plan.planId stored hfile, hstorable.reloaded _⟩
  | save saved =>
      obtain ⟨hfirst, loaded, hloaded, hplanId, hsteps, habort⟩ := hallow
      obtain ⟨hown, hstorable⟩ := h.loaded loaded hloaded
      exact h.cancel (hplanId.trans hown) (hstorable.of_steps hplanId hsteps)
        habort hfirst
  | time =>
      exact h.canceller (fun saved hop => by cases hop) h.loaded
  | monotonic | newTaskId | git | inspect | pick | callStart | callEnd =>
      exact hallow.elim

end

theorem cancelling_serves : Pool.Serves (partyProtocol config mode plan)
    (serveStore criteria) (fun _ _ _ => True) (Cancelling plan) := by
  intro world views who op proposed h hallow _
  cases who with
  | runner => exact ⟨trivial, runner_serves h op proposed hallow⟩
  | canceller => exact ⟨trivial, canceller_serves h op proposed hallow⟩

theorem runAndCancel_cancelling {files : String → Option Plan}
    (hkeyed : Keyed files) (schedule : List (Party × PlanOracle)) :
    ∃ views, Cancelling plan (runAndCancel config mode cwd timeout plan error
      criteria files schedule).world views := by
  have hstart : Pool.Follows (partyProtocol config mode plan)
      (fun _ _ _ => True) (Cancelling plan)
      ⟨⟨files, []⟩, cancelProcs config mode cwd timeout plan error⟩ := by
    refine ⟨fun who => match who with
      | .runner => { plan }
      | .canceller => {}, ?_, ?_⟩
    · refine ⟨hkeyed, rfl, rfl, rfl, fun _ hfound => (by cases hfound),
        fun _ => ⟨rfl, rfl, fun hentered => (by cases hentered)⟩,
        fun _ _ hsome => (by cases hsome)⟩
    · rintro (_ | _)
      · have hrun : Script.wp (runProtocol config (config.runMode mode))
            (run config mode cwd timeout) (fun _ _ _ => True) plan { plan } :=
          wp_run config mode cwd timeout plan (fun _ _ _ _ => trivial)
            fun _ _ _ _ => trivial
        exact hrun
      · exact wp_cancel plan.planId error
  obtain ⟨views, h, _⟩ := Pool.run_follows cancelling_serves schedule
    (Pool.meets_true _ _ _) hstart
  exact ⟨views, h⟩

end Pool

/-- A cancellation saved before the run saves again is kept iff the run loads
the plan next. -/
theorem cancel_kept_iff (config : RunnerConfig) (mode cwd : String)
    (timeout : Option Timeout) (plan : Plan) (error : String)
    (criteria : CriteriaCompiler) (files : String → Option Plan)
    (hkeyed : Keyed files) (schedule : List (Party × PlanOracle))
    (later earlier : List (Party × Exchange))
    (hcancelled : sinceCancel (runAndCancel config mode cwd timeout plan error
      criteria files schedule).world.log = some (later, earlier))
    (hsaved : ∃ entry ∈ later, entry.1 = .runner ∧ entry.2.isSave = true) :
    CancelKept plan earlier (runAndCancel config mode cwd timeout plan error
        criteria files schedule).world.files later ↔
      ∃ planId, firstAccess plan earlier later = some (.load planId) := by
  obtain ⟨views, h⟩ := runAndCancel_cancelling hkeyed schedule
  exact (h.since later earlier hcancelled).2.kept_iff plan earlier hsaved

namespace CancelWitness

def single : Plan := { planId := "p", steps := [{ id := "a" }] }

theorem none_drafted (_ : String) : ∀ check ∈ ([] : List AcceptanceCheck),
    check.type ∈ draftedCheckTypes :=
  List.forall_mem_nil _

def noDrafts : CriteriaCompiler := ⟨fun _ => [], none_drafted⟩

def fine : PlanOracle := calm { success := true, output := "out" }

def cancelAfter (n : Nat) : Pool PlanOp PlanReply Party (PlanWorld Party)
    Party.Returns :=
  runAndCancel {} "" "" none single "stop" noDrafts (fun _ => none)
    (List.replicate n (.runner, fine) ++
      List.replicate 3 (.canceller, fine) ++
      List.replicate 20 (.runner, fine))

def isLoad : PlanOp → Bool
  | .load _ => true
  | _ => false

def reaction (log : List (Party × Exchange)) : Option (Bool × Option Bool) :=
  (sinceCancel log).map fun parts =>
    (parts.1.any fun entry => entry.1 = .runner && entry.2.isSave,
      (firstAccess single parts.2 parts.1).map isLoad)

theorem reaction_eq {log : List (Party × Exchange)} {loaded : Bool}
    (h : reaction log = some (true, some loaded)) :
    ∃ later earlier, sinceCancel log = some (later, earlier) ∧
      (∃ entry ∈ later, entry.1 = .runner ∧ entry.2.isSave = true) ∧
      ((∃ planId, firstAccess single earlier later = some (.load planId)) ↔
        loaded = true) := by
  obtain ⟨⟨later, earlier⟩, hparts, heq⟩ := Option.map_eq_some_iff.mp h
  obtain ⟨hsave, hfirst⟩ := Prod.mk.inj heq
  obtain ⟨op, hop, hload⟩ := Option.map_eq_some_iff.mp hfirst
  refine ⟨later, earlier, hparts, by simpa using hsave, ?_⟩
  rw [hop, ← hload]
  cases op <;> simp [isLoad]

/-- A cancellation while the call is in progress is kept. -/
theorem cancel_during_call_kept :
    (∀ who, ((cancelAfter 10).procs who).isDone = true) ∧
    ∃ later earlier,
      sinceCancel (cancelAfter 10).world.log = some (later, earlier) ∧
      CancelKept single earlier (cancelAfter 10).world.files later := by
  obtain ⟨later, earlier, hsplit, hsaved, hload⟩ := reaction_eq
    (show reaction (cancelAfter 10).world.log = some (true, some true) by
      decide +kernel)
  refine ⟨by rintro (_ | _) <;> decide +kernel, later, earlier, hsplit, ?_⟩
  refine (cancel_kept_iff {} "" "" none single "stop" noDrafts
    (fun _ => none) ?_ _ later earlier hsplit hsaved).mpr (hload.mpr rfl)
  intro planId plan hfile
  cases hfile

/-- A cancellation between abort check and save is overwritten. -/
theorem cancel_before_save_lost :
    (∀ who, ((cancelAfter 12).procs who).isDone = true) ∧
    ∃ later earlier,
      sinceCancel (cancelAfter 12).world.log = some (later, earlier) ∧
      (∃ entry ∈ later, entry.1 = .runner ∧ entry.2.isSave = true) ∧
      ¬ CancelKept single earlier (cancelAfter 12).world.files later := by
  obtain ⟨later, earlier, hsplit, hsaved, _⟩ := reaction_eq
    (show reaction (cancelAfter 12).world.log = some (true, some false) by
      decide +kernel)
  refine ⟨by rintro (_ | _) <;> decide +kernel, later, earlier, hsplit, hsaved,
    ?_⟩
  rintro ⟨_, stored, hfile, habort⟩
  have hstatus : ((cancelAfter 12).world.files "p").map Plan.status =
      some .completed := by decide +kernel
  rw [show single.planId = "p" from rfl] at hfile
  rw [hfile, Option.map_some, habort] at hstatus
  cases hstatus

end CancelWitness

end Voly
