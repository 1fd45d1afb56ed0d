/-
Plans that come back from disk as they were written, and what a round trip
changes in the others.
-/
import Voly.Plan.Document

namespace Voly

open Python Interaction

/-- `to_dict` drops nothing of the check that `from_dict` would not put
back. -/
structure AcceptanceCheck.Canonical (check : AcceptanceCheck) : Prop where
  expectExit : check.run = "" → check.expectExit = 0
  maxLines : 0 ≤ check.maxLines
  approvedMaxLines : 0 ≤ check.approvedMaxLines

structure PlanStep.Canonical (criteria : CriteriaCompiler)
    (step : PlanStep) : Prop where
  role : step.role ≠ ""
  checks : ∀ check ∈ step.acceptance, check.Canonical
  noDraft : step.acceptance = [] → strip step.successCriteria ≠ "" →
    criteria.compile step.successCriteria = []

structure Plan.Canonical (criteria : CriteriaCompiler) (plan : Plan) :
    Prop where
  schemaVersion : plan.schemaVersion ≠ 0
  steps : ∀ step ∈ plan.steps, step.Canonical criteria

theorem limit_eq_self {n : Int} : (if 0 < n then n else 0) = n ↔ 0 ≤ n := by
  split <;> omega

theorem AcceptanceCheck.normal_eq_self {check : AcceptanceCheck} :
    check.normal = check ↔ check.Canonical := by
  constructor
  · intro h
    refine ⟨fun hrun => ?_, ?_, ?_⟩
    · have := congrArg AcceptanceCheck.expectExit h
      rw [← this, AcceptanceCheck.normal, if_pos hrun]
    · exact limit_eq_self.mp (congrArg AcceptanceCheck.maxLines h)
    · exact limit_eq_self.mp (congrArg AcceptanceCheck.approvedMaxLines h)
  · intro h
    have hexit : (if check.run = "" then 0 else check.expectExit) =
        check.expectExit := by
      split
      case isTrue hrun => exact (h.expectExit hrun).symm
      case isFalse => rfl
    rw [AcceptanceCheck.normal, hexit, limit_eq_self.mpr h.maxLines,
      limit_eq_self.mpr h.approvedMaxLines]

theorem AcceptanceCheck.normal_canonical (check : AcceptanceCheck) :
    check.normal.Canonical := by
  refine ⟨fun hrun => ?_, ?_, ?_⟩
  · exact if_pos hrun
  · simp only [AcceptanceCheck.normal]
    split <;> omega
  · simp only [AcceptanceCheck.normal]
    split <;> omega

theorem map_eq_self {A : Type} {f : A → A} {xs : List A} :
    xs.map f = xs ↔ ∀ x ∈ xs, f x = x := by
  have h := List.map_inj_left (l := xs) (f := f) (g := id)
  rwa [List.map_id] at h

theorem PlanStep.reloaded_eq_self {criteria : CriteriaCompiler}
    {step : PlanStep} :
    step.reloaded criteria = step ↔ step.Canonical criteria := by
  constructor
  · intro h
    have hrole : orElse step.role "developer" = step.role :=
      congrArg PlanStep.role h
    have hchecks : step.reloadedChecks criteria = step.acceptance :=
      congrArg PlanStep.acceptance h
    unfold PlanStep.reloadedChecks at hchecks
    refine ⟨fun hempty => ?_, fun check hcheck => ?_, fun hnone hsome => ?_⟩
    · rw [hempty] at hrole
      exact absurd hrole (by decide)
    · rw [if_neg (fun hdraft => by simp [hdraft.1] at hcheck)] at hchecks
      exact AcceptanceCheck.normal_eq_self.mp
        (map_eq_self.mp hchecks check hcheck)
    · rwa [if_pos ⟨hnone, hsome⟩, hnone] at hchecks
  · intro h
    have hrole : orElse step.role "developer" = step.role := if_neg h.role
    have hchecks : step.reloadedChecks criteria = step.acceptance := by
      unfold PlanStep.reloadedChecks
      split
      case isTrue hdraft => rw [h.noDraft hdraft.1 hdraft.2, hdraft.1]
      case isFalse =>
        exact map_eq_self.mpr fun check hcheck =>
          AcceptanceCheck.normal_eq_self.mpr (h.checks check hcheck)
    rw [PlanStep.reloaded, hrole, hchecks]

theorem Plan.reloaded_eq_self {criteria : CriteriaCompiler} {plan : Plan} :
    plan.reloaded criteria = plan ↔ plan.Canonical criteria := by
  constructor
  · intro h
    have hversion := congrArg Plan.schemaVersion h
    have hsteps := map_eq_self.mp (congrArg Plan.steps h)
    refine ⟨fun hzero => ?_, fun step hstep =>
      PlanStep.reloaded_eq_self.mp (hsteps step hstep)⟩
    have hone : (1 : Int) = plan.schemaVersion := by
      rwa [Plan.reloaded, if_pos hzero] at hversion
    omega
  · intro h
    have hversion : (if plan.schemaVersion = 0 then Voly.schemaVersion
        else plan.schemaVersion) = plan.schemaVersion :=
      if_neg h.schemaVersion
    have hsteps : plan.steps.map (PlanStep.reloaded criteria) = plan.steps :=
      map_eq_self.mpr fun step hstep =>
        PlanStep.reloaded_eq_self.mpr (h.steps step hstep)
    rw [Plan.reloaded, hversion, hsteps]

theorem orElse_ne_empty {s default : String} (h : default ≠ "") :
    orElse s default ≠ "" := by
  unfold orElse
  split <;> assumption

theorem PlanStep.reloaded_canonical (text : CriteriaText) (step : PlanStep) :
    (step.reloaded text.compiler).Canonical text.compiler := by
  refine ⟨orElse_ne_empty (by decide), ?_, ?_⟩
  · intro check hcheck
    simp only [PlanStep.reloaded, PlanStep.reloadedChecks] at hcheck
    split at hcheck
    case isTrue =>
      exact AcceptanceCheck.normal_eq_self.mp
        (compileSuccessCriteria_drafted hcheck).normal
    case isFalse =>
      obtain ⟨original, _, rfl⟩ := List.mem_map.mp hcheck
      exact original.normal_canonical
  · intro hnone hsome
    simp only [PlanStep.reloaded, PlanStep.reloadedChecks] at hnone hsome ⊢
    split at hnone
    case isTrue => exact hnone
    case isFalse hdraft =>
      rw [List.map_eq_nil_iff] at hnone
      exact absurd ⟨hnone, hsome⟩ hdraft

theorem Plan.reloaded_canonical (text : CriteriaText) (plan : Plan) :
    (plan.reloaded text.compiler).Canonical text.compiler := by
  refine ⟨?_, fun step hstep => ?_⟩
  · simp only [Plan.reloaded]
    split
    case isTrue => decide
    case isFalse h => exact h
  · obtain ⟨original, _, rfl⟩ := List.mem_map.mp hstep
    exact original.reloaded_canonical text

theorem Plan.reloaded_reloaded (text : CriteriaText) (plan : Plan) :
    (plan.reloaded text.compiler).reloaded text.compiler =
      plan.reloaded text.compiler :=
  Plan.reloaded_eq_self.mpr (plan.reloaded_canonical text)

def Plan.ChecksTyped (plan : Plan) : Prop :=
  ∀ step ∈ plan.steps, ∀ check ∈ step.acceptance, check.type ≠ ""

theorem Plan.storable_of_validate {plan : Plan} (h : validate plan = .ok ())
    (htyped : plan.ChecksTyped) : plan.Storable := by
  have hwf := wellFormed_of_validate h
  exact ⟨hwf.planId,
    fun step hstep => hwf.idNonempty step.id (List.mem_map_of_mem hstep),
    htyped⟩

theorem toOption_eq_ok {E A : Type} {x : Except E A} {a : A}
    (h : x.toOption = some a) : x = .ok a := by
  cases x with
  | error e => cases h
  | ok b => rw [Option.some.inj h]

theorem Plan.Storable.fromDict {plan : Plan} (h : plan.Storable)
    (py : Builtins) (criteria : CriteriaCompiler) :
    Plan.fromDict py criteria (.obj plan.toDict) =
      .ok (plan.reloaded criteria) := by
  apply toOption_eq_ok
  rw [Plan.fromDict_toDict, h.reload criteria]
  rfl

def saveAndLoad : PlanScript (Option Plan) := do
  storeSave
  let plan ← Script.read
  storeLoad plan.planId

theorem Plan.Storable.saveAndLoad {I : Type} {plan : Plan} (h : plan.Storable)
    (hpath : storePath plan.planId = .ok ()) (criteria : CriteriaCompiler)
    (who : I) (oracle : Nat → PlanOracle) (world : PlanWorld I) :
    ((saveAndLoad plan).exec (serveStore criteria who) oracle 0 world).1.1 =
      .ok (some ((plan.stamped (oracle 0 .time)).reloaded criteria)) := by
  have hstamped : (plan.stamped (oracle 0 .time)).Storable :=
    h.of_steps rfl rfl
  have hstampedPath : storePath (plan.stamped (oracle 0 .time)).planId =
      .ok () := hpath
  simp only [Voly.saveAndLoad, storeSave, storeLoad, bind, Script.andThen,
    Script.ask, Script.update, Script.read, Script.run, Script.askOk,
    Prog.bind_ask, Prog.bind_done, Prog.exec, serveStore, serveFiles,
    diskAnswer, hstampedPath, id]
  exact readFile_of_storable (Function.update_self ..) hstamped

/-- Accepted plans come back normalised: schema version, role, exit status,
limits and drafted checks.  Canonical plans come back as they were, and a second
round trip changes nothing. -/
theorem plan_round_trip (py : Builtins) (text : CriteriaText) (plan : Plan)
    (hvalid : validate plan = .ok ()) (htyped : plan.ChecksTyped) :
    Plan.fromDict py text.compiler (.obj plan.toDict) =
        .ok (plan.reloaded text.compiler) ∧
      (plan.reloaded text.compiler = plan ↔ plan.Canonical text.compiler) ∧
      (∀ (I : Type) (who : I) (oracle : Nat → PlanOracle)
        (world : PlanWorld I), storePath plan.planId = .ok () →
        ((saveAndLoad plan).exec (serveStore text.compiler who) oracle 0
          world).1.1 =
          .ok (some ((plan.reloaded text.compiler).stamped
            (oracle 0 .time)))) ∧
      Plan.fromDict py text.compiler
          (.obj (plan.reloaded text.compiler).toDict) =
        .ok (plan.reloaded text.compiler) := by
  have hstorable := Plan.storable_of_validate hvalid htyped
  refine ⟨hstorable.fromDict py text.compiler, Plan.reloaded_eq_self, ?_, ?_⟩
  · intro I who oracle world hpath
    exact hstorable.saveAndLoad hpath text.compiler who oracle world
  · rw [(hstorable.reloaded text.compiler).fromDict py text.compiler,
      plan.reloaded_reloaded text]

namespace RoundTripWitness

def py : Builtins where
  str
    | .str s => s
    | _ => ""
  repr _ := ""
  int
    | .num q => .ok q.num
    | _ => .error "int() argument must be a number"
  float
    | .num q => .ok q
    | _ => .error "float() argument must be a number"
  str_text _ := rfl
  int_num _ := rfl
  float_num _ := rfl

def text : CriteriaText where
  splitLines criteria := [criteria]
  lower := lower
  pathsIn _ := []
  quotedIn _ := none
  outputContains _ := none
  regexNamed _ := none
  escape s := s

def plan : Plan :=
  { planId := "p", steps := [{ id := "a", successCriteria := "all tests" }] }

theorem plan_valid : validate plan = .ok () := by decide +kernel

theorem plan_checksTyped : plan.ChecksTyped := by
  unfold Plan.ChecksTyped
  decide

theorem criteria_round_trip :
    Plan.fromDict py text.compiler (.obj plan.toDict) =
      .ok (plan.reloaded text.compiler) :=
  (plan_round_trip py text plan plan_valid plan_checksTyped).1

/-- The reloaded step is gated by a command that the saved one did not
have. -/
theorem criteria_not_kept :
    ¬ ∀ (py : Builtins) (text : CriteriaText) (plan : Plan),
      validate plan = .ok () →
        Plan.fromDict py text.compiler (.obj plan.toDict) = .ok plan := by
  intro h
  have hkept := h py text plan plan_valid
  have hstorable := Plan.storable_of_validate plan_valid plan_checksTyped
  rw [hstorable.fromDict py text.compiler] at hkept
  have hcanonical := Plan.reloaded_eq_self.mp (Except.ok.inj hkept)
  have hstep : plan.steps.head (by decide) ∈ plan.steps :=
    List.head_mem _
  have hnone := (hcanonical.steps _ hstep).noDraft rfl (by decide)
  exact absurd hnone (by decide +kernel)

end RoundTripWitness

end Voly
