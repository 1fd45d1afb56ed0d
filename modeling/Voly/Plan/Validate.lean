/-
What `validate` accepts: distinct step ids, known dependencies, and an order of
the steps.
-/
import Voly.Plan.Transition

namespace Voly

open Python StepStatus

theorem strip_empty : strip "" = "" := by decide

/-- A plan document that passed validation. -/
structure WellFormed (plan : Plan) : Prop where
  planId : plan.planId ≠ ""
  nodup : plan.ids.Nodup
  idNonempty : ∀ stepId ∈ plan.ids, stepId ≠ ""
  known : ∀ step ∈ plan.steps, ∀ dep ∈ step.dependsOn, dep ∈ plan.ids
  irreflexive : ∀ step ∈ plan.steps, step.id ∉ step.dependsOn
  ordered : ∃ order, topoOrder plan = .ok order

theorem validateSteps_ok {steps : List PlanStep} {seen : List String}
    (h : validateSteps steps seen = .ok ()) :
    (steps.map PlanStep.id).Nodup ∧
      ∀ step ∈ steps, step.id ≠ "" ∧ step.id ∉ seen := by
  induction steps generalizing seen with
  | nil => simp
  | cons head tail ih =>
      rw [validateSteps] at h
      split at h
      case isTrue => cases h
      case isFalse hstrip =>
        split at h
        case isTrue => cases h
        case isFalse hseen =>
          obtain ⟨hnodup, htail⟩ := ih h
          have hne : head.id ≠ "" := by
            intro hempty
            apply hstrip
            rw [hempty, strip_empty]
          constructor
          · rw [List.map_cons, List.nodup_cons]
            refine ⟨?_, hnodup⟩
            intro hmem
            obtain ⟨step, hstep, heq⟩ := List.mem_map.mp hmem
            have := (htail step hstep).2
            simp [heq] at this
          · intro step hstep
            rcases List.mem_cons.mp hstep with rfl | hstep
            · exact ⟨hne, hseen⟩
            · have := htail step hstep
              simp only [List.mem_append, not_or] at this
              exact ⟨this.1, this.2.1⟩

theorem validateDependsOn_ok {ids : List String} {stepId : String}
    {deps : List String} (h : validateDependsOn ids stepId deps = .ok ()) :
    ∀ dep ∈ deps, dep ∈ ids ∧ dep ≠ stepId := by
  induction deps with
  | nil => simp
  | cons head tail ih =>
      rw [validateDependsOn] at h
      split at h
      case isTrue => cases h
      case isFalse hknown =>
        split at h
        case isTrue => cases h
        case isFalse hself =>
          intro dep hdep
          rcases List.mem_cons.mp hdep with rfl | hdep
          · exact ⟨not_not.mp hknown, hself⟩
          · exact ih h dep hdep

theorem validateDependencies_ok {ids : List String} {steps : List PlanStep}
    (h : validateDependencies ids steps = .ok ()) :
    ∀ step ∈ steps, ∀ dep ∈ step.dependsOn, dep ∈ ids ∧ dep ≠ step.id := by
  induction steps with
  | nil => simp
  | cons head tail ih =>
      rw [validateDependencies] at h
      split at h
      case h_1 => cases h
      case h_2 hhead =>
        intro step hstep
        rcases List.mem_cons.mp hstep with rfl | hstep
        · exact validateDependsOn_ok hhead
        · exact ih h step hstep

theorem wellFormed_of_validate {plan : Plan} (h : validate plan = .ok ()) :
    WellFormed plan := by
  unfold validate at h
  split at h
  case isTrue => cases h
  case isFalse hid =>
    split at h
    case isTrue => cases h
    case isFalse =>
      split at h
      case h_1 => cases h
      case h_2 hsteps =>
        split at h
        case h_1 => cases h
        case h_2 hdeps =>
          split at h
          case h_1 => cases h
          case h_2 order horder =>
            obtain ⟨hnodup, hnonempty⟩ := validateSteps_ok hsteps
            have hknown := validateDependencies_ok hdeps
            refine ⟨?_, hnodup, ?_, ?_, ?_, order, horder⟩
            · intro hempty
              apply hid
              rw [hempty, strip_empty]
            · intro stepId hmem
              obtain ⟨step, hstep, rfl⟩ := List.mem_map.mp hmem
              exact (hnonempty step hstep).1
            · intro step hstep dep hdep
              exact (hknown step hstep dep hdep).1
            · intro step hstep hself
              exact (hknown step hstep _ hself).2 rfl

theorem nodes_fst (plan : Plan) : plan.nodes.map Prod.fst = plan.ids := by
  simp [Plan.nodes, Plan.ids]

theorem topoOrder_congr {plan plan' : Plan} (h : plan'.nodes = plan.nodes) :
    topoOrder plan' = topoOrder plan := by
  have hids : plan'.ids = plan.ids := by
    rw [← nodes_fst, ← nodes_fst, h]
  have hunknown : plan'.unknownDependency? = plan.unknownDependency? := by
    have hflat : ∀ p : Plan,
        (p.steps.flatMap fun step =>
          step.dependsOn.map fun dep => (step.id, dep)) =
        p.nodes.flatMap fun node => node.2.map fun dep => (node.1, dep) := by
      intro p
      rw [Plan.nodes, List.flatMap_map]
    unfold Plan.unknownDependency?
    rw [hflat, hflat, h, hids]
  unfold topoOrder
  rw [hunknown, h, hids]

theorem validate_congr {plan plan' : Plan}
    (hplanId : plan'.planId = plan.planId)
    (hsteps : plan'.steps = plan.steps) : validate plan' = validate plan := by
  have hids : plan'.ids = plan.ids := by simp only [Plan.ids, hsteps]
  have horder : topoOrder plan' = topoOrder plan :=
    topoOrder_congr (by simp only [Plan.nodes, hsteps])
  unfold validate
  rw [hplanId, hsteps, hids, horder]

def WellFormed.graph {plan : Plan} (h : WellFormed plan) :
    Kahn.Graph String where
  nodes := plan.nodes
  nodup := by rw [nodes_fst]; exact h.nodup
  known := by
    rw [nodes_fst]
    intro node hnode
    obtain ⟨step, hstep, rfl⟩ := List.mem_map.mp hnode
    exact h.known step hstep

theorem topoOrder_ok {plan : Plan} {order : List String}
    (horder : topoOrder plan = .ok order) :
    order = Kahn.order plan.nodes ∧
      (Kahn.order plan.nodes).length = plan.ids.length := by
  unfold topoOrder at horder
  split at horder
  case h_1 => cases horder
  case h_2 =>
    simp only at horder
    split at horder
    case isTrue => cases horder
    case isFalse hlen =>
      exact ⟨(Except.ok.inj horder).symm, not_not.mp hlen⟩

section

variable {plan : Plan} (h : WellFormed plan) {order : List String}
  (horder : topoOrder plan = .ok order)
include h horder

theorem WellFormed.mem_order (stepId : String) :
    stepId ∈ order ↔ stepId ∈ plan.ids := by
  obtain ⟨rfl, hlen⟩ := topoOrder_ok horder
  have hids : h.graph.ids = plan.ids := nodes_fst plan
  have := h.graph.mem_order_of_length (by rw [hids]; exact hlen) stepId
  rwa [hids] at this

theorem WellFormed.order_nodup :
    order.Nodup := by
  obtain ⟨rfl, _⟩ := topoOrder_ok horder
  exact h.graph.order_nodup

end

/-- The step passes `can_start`. -/
def Startable (plan : Plan) (stepId : String) : Prop :=
  ∃ step, plan.getStep? stepId = some step ∧
    step.status ∈ [pending, failed] ∧ DepsVerified plan step

theorem canStart_eq_true {plan : Plan} (hnodup : plan.ids.Nodup)
    {stepId : String} : canStart plan stepId = .ok true ↔
      Startable plan stepId := by
  unfold canStart Startable
  cases hget : plan.getStep stepId with
  | error e =>
      have := plan.getStep_error hget
      simp [this]
  | ok step =>
      have hsome := plan.getStep_eq_ok hget
      simp [hsome, unmetOf_eq_nil hnodup]

section

variable {plan : Plan} (h : WellFormed plan) {runnable : List String}
  (hrun : runnableSteps plan = .ok runnable)
include h hrun

theorem mem_runnableSteps (stepId : String) :
    stepId ∈ runnable ↔ Startable plan stepId := by
  unfold runnableSteps at hrun
  split at hrun
  case h_1 => cases hrun
  case h_2 order horder =>
    cases hrun
    rw [List.mem_filter, h.mem_order horder, ← canStart_eq_true h.nodup]
    constructor
    · rintro ⟨_, hstart⟩
      split at hstart
      case h_1 startable hok => rw [hok, hstart]
      case h_2 => cases hstart
    · intro hstart
      refine ⟨?_, by simp [hstart]⟩
      obtain ⟨step, hget, _⟩ := (canStart_eq_true h.nodup).mp hstart
      have := plan.getStep?_mem hget
      rw [← plan.getStep?_id hget]
      exact List.mem_map_of_mem this

theorem runnableSteps_nodup :
    runnable.Nodup := by
  unfold runnableSteps at hrun
  split at hrun
  case h_1 => cases hrun
  case h_2 order horder =>
    cases hrun
    exact (h.order_nodup horder).filter _

end

theorem runnableSteps_ok {plan : Plan} (h : WellFormed plan) :
    ∃ runnable, runnableSteps plan = .ok runnable := by
  obtain ⟨order, horder⟩ := h.ordered
  unfold runnableSteps
  rw [horder]
  exact ⟨_, rfl⟩

end Voly
