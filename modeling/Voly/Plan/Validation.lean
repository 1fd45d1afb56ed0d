/-
What `validate` and `topo_order` accept, for documents whose statuses and modes
may be any text.
-/
import Voly.Plan.Document

namespace Voly

open Python StepStatus

/-- A step as `validate` reads it. -/
structure StepDoc where
  id : String
  status : String := "pending"
  mode : String := "chat"
  dependsOn : List String := []
deriving DecidableEq

/-- A plan as `validate` reads it. -/
structure PlanDoc where
  planId : String
  status : String := "pending"
  steps : List StepDoc := []
deriving DecidableEq

def stepStatuses : List String :=
  ["pending", "running", "done", "verifying", "verified", "failed", "skipped"]

def planStatuses : List String :=
  ["pending", "running", "completed", "failed", "aborted"]

def stepModes : List String := ["chat", "executor", "business"]

def PlanDoc.ids (doc : PlanDoc) : List String := doc.steps.map StepDoc.id

/-- What `topo_order` reads of a plan: ids and dependencies. -/
def PlanDoc.outline (doc : PlanDoc) : Plan :=
  { planId := doc.planId
    steps := doc.steps.map fun step =>
      { id := step.id, dependsOn := step.dependsOn } }

def validateStepDoc (step : StepDoc) (seen : List String) :
    Except PyError Unit :=
  if strip step.id = "" then .error (.validation "step id is required")
  else if step.id ∈ seen then
    .error (.validation ("duplicate step id: " ++ quoted step.id))
  else if step.status ∉ stepStatuses then
    .error (.validation ("step " ++ quoted step.id ++ ": invalid status " ++
      quoted step.status))
  else if step.mode ∉ stepModes then
    .error (.validation ("step " ++ quoted step.id ++ ": invalid mode " ++
      quoted step.mode))
  else .ok ()

def validateStepDocs : List StepDoc → List String → Except PyError Unit
  | [], _ => .ok ()
  | step :: rest, seen =>
      match validateStepDoc step seen with
      | .error e => .error e
      | .ok () => validateStepDocs rest (seen ++ [step.id])

/-- `PlanEngine.validate`. -/
def validateDoc (doc : PlanDoc) : Except PyError Unit :=
  if strip doc.planId = "" then
    .error (.validation "plan_id is required")
  else if doc.status ∉ planStatuses then
    .error (.validation ("invalid plan status: " ++ quoted doc.status))
  else if doc.steps = [] then
    .error (.validation "plan must have at least one step")
  else
    match validateStepDocs doc.steps [] with
    | .error e => .error e
    | .ok () =>
        match validateDependencies doc.ids doc.outline.steps with
        | .error e => .error e
        | .ok () =>
            match topoOrder doc.outline with
            | .error e => .error e
            | .ok _ => .ok ()

namespace PlanDoc

/-- A step with the first id lists the second one. -/
def DependsOn (doc : PlanDoc) (stepId dep : String) : Prop :=
  ∃ step ∈ doc.steps, step.id = stepId ∧ dep ∈ step.dependsOn

/-- No step depends on itself, not even through others. -/
def Acyclic (doc : PlanDoc) : Prop :=
  ∀ stepId, ¬Relation.TransGen doc.DependsOn stepId stepId

/-- Every dependency is a step of the plan. -/
def Known (doc : PlanDoc) : Prop :=
  ∀ stepId dep, doc.DependsOn stepId dep → dep ∈ doc.ids

/-- Every dependency precedes its dependents. -/
def Precedes (doc : PlanDoc) (order : List String) : Prop :=
  ∀ before stepId after, order = before ++ stepId :: after →
    ∀ dep, doc.DependsOn stepId dep → dep ∈ before

/-- What `validate` asks of a plan. -/
structure Valid (doc : PlanDoc) : Prop where
  planId : strip doc.planId ≠ ""
  status : doc.status ∈ planStatuses
  nonempty : doc.steps ≠ []
  named : ∀ step ∈ doc.steps, strip step.id ≠ ""
  unique : doc.ids.Nodup
  statuses : ∀ step ∈ doc.steps, step.status ∈ stepStatuses
  modes : ∀ step ∈ doc.steps, step.mode ∈ stepModes
  known : doc.Known
  irreflexive : ∀ stepId, ¬doc.DependsOn stepId stepId
  acyclic : doc.Acyclic

end PlanDoc

section Order

variable {doc : PlanDoc}

theorem outline_ids (doc : PlanDoc) : doc.outline.ids = doc.ids := by
  simp [PlanDoc.outline, Plan.ids, PlanDoc.ids]

theorem dependsOn_iff {stepId dep : String} : doc.DependsOn stepId dep ↔
    ∃ node ∈ doc.outline.nodes, node.1 = stepId ∧ dep ∈ node.2 := by
  simp [PlanDoc.DependsOn, PlanDoc.outline, Plan.nodes]

def PlanDoc.graph (hnodup : doc.ids.Nodup) (hknown : doc.Known) :
    Kahn.Graph String where
  nodes := doc.outline.nodes
  nodup := by rw [nodes_fst, outline_ids]; exact hnodup
  known := by
    intro node hnode dep hdep
    rw [nodes_fst, outline_ids]
    exact hknown node.1 dep (dependsOn_iff.mpr ⟨node, hnode, rfl, hdep⟩)

variable (hnodup : doc.ids.Nodup) (hknown : doc.Known)

theorem graph_ids : (PlanDoc.graph hnodup hknown).ids = doc.ids := by
  rw [← outline_ids, ← nodes_fst]
  rfl

theorem graph_edge : (PlanDoc.graph hnodup hknown).Edge = doc.DependsOn := by
  funext stepId dep
  rw [dependsOn_iff]
  simp [Kahn.Graph.Edge, Kahn.Graph.deps, PlanDoc.graph, and_assoc]

theorem graph_acyclic :
    (PlanDoc.graph hnodup hknown).Acyclic ↔ doc.Acyclic := by
  rw [Kahn.Graph.Acyclic, graph_edge, PlanDoc.Acyclic]

theorem unknownDependency_none (hknown : doc.Known) :
    doc.outline.unknownDependency? = none := by
  rw [Plan.unknownDependency?, List.find?_eq_none]
  intro edge hedge
  rw [List.mem_flatMap] at hedge
  obtain ⟨step, hstep, hedge⟩ := hedge
  obtain ⟨dep, hdep, rfl⟩ := List.mem_map.mp hedge
  have hnode : (step.id, step.dependsOn) ∈ doc.outline.nodes :=
    List.mem_map_of_mem hstep
  have hmem := hknown step.id dep (dependsOn_iff.mpr ⟨_, hnode, rfl, hdep⟩)
  simpa [outline_ids] using hmem

section

variable (hnodup : doc.ids.Nodup) (hknown : doc.Known)
include hnodup hknown

theorem topoOrder_eq_ok (hacyclic : doc.Acyclic) :
    topoOrder doc.outline = .ok (Kahn.order doc.outline.nodes) := by
  have hlength : (Kahn.order doc.outline.nodes).length =
      doc.outline.ids.length := by
    rw [← nodes_fst]
    exact (PlanDoc.graph hnodup hknown).length_order_iff.mpr
      ((graph_acyclic hnodup hknown).mpr hacyclic)
  rw [topoOrder, unknownDependency_none hknown]
  exact if_neg (not_not.mpr hlength)

theorem acyclic_of_topoOrder {order : List String}
    (h : topoOrder doc.outline = .ok order) :
    doc.Acyclic := by
  obtain ⟨_, hlength⟩ := topoOrder_ok h
  rw [← nodes_fst] at hlength
  exact (graph_acyclic hnodup hknown).mp
    ((PlanDoc.graph hnodup hknown).length_order_iff.mp hlength)

theorem topoOrder_raises (hcyclic : ¬doc.Acyclic) :
    ∃ e, topoOrder doc.outline = .error e := by
  cases h : topoOrder doc.outline with
  | error e => exact ⟨e, rfl⟩
  | ok order => exact absurd (acyclic_of_topoOrder hnodup hknown h) hcyclic

theorem order_perm (hacyclic : doc.Acyclic) :
    (Kahn.order doc.outline.nodes).Perm doc.ids := by
  rw [← graph_ids hnodup hknown]
  exact (PlanDoc.graph hnodup hknown).order_perm_iff.mpr
    ((graph_acyclic hnodup hknown).mpr hacyclic)

theorem order_precedes :
    doc.Precedes (Kahn.order doc.outline.nodes) := by
  intro before stepId after horder dep hdep
  rw [← graph_edge hnodup hknown] at hdep
  exact (PlanDoc.graph hnodup hknown).order_respects before stepId after
    horder dep hdep

theorem topoOrder_iff :
    (∃ order, topoOrder doc.outline = .ok order ∧ order.Perm doc.ids ∧
      doc.Precedes order) ↔ doc.Acyclic := by
  constructor
  · rintro ⟨_, horder, _⟩
    exact acyclic_of_topoOrder hnodup hknown horder
  · intro hacyclic
    exact ⟨_, topoOrder_eq_ok hnodup hknown hacyclic,
      order_perm hnodup hknown hacyclic, order_precedes hnodup hknown⟩

end

end Order

theorem validateStepDoc_ok {step : StepDoc} {seen : List String} :
    validateStepDoc step seen = .ok () ↔
      strip step.id ≠ "" ∧ step.id ∉ seen ∧
        step.status ∈ stepStatuses ∧ step.mode ∈ stepModes := by
  unfold validateStepDoc
  split_ifs <;> simp_all

/-- `_validate_step` over all steps: each passes, and no id comes twice. -/
theorem validateStepDocs_ok {steps : List StepDoc} {seen : List String} :
    validateStepDocs steps seen = .ok () ↔
      (steps.map StepDoc.id).Nodup ∧ ∀ step ∈ steps, strip step.id ≠ "" ∧
        step.id ∉ seen ∧ step.status ∈ stepStatuses ∧
          step.mode ∈ stepModes := by
  induction steps generalizing seen with
  | nil => simp [validateStepDocs]
  | cons head tail ih =>
      rw [validateStepDocs]
      cases hhead : validateStepDoc head seen with
      | error e =>
          have hfails : ¬(strip head.id ≠ "" ∧ head.id ∉ seen ∧
              head.status ∈ stepStatuses ∧ head.mode ∈ stepModes) := by
            rw [← validateStepDoc_ok, hhead]
            exact fun h => by cases h
          constructor
          · intro h
            cases h
          · intro h
            exact absurd (h.2 head List.mem_cons_self) hfails
      | ok =>
          have hpasses := validateStepDoc_ok.mp hhead
          simp only
          rw [ih]
          constructor
          · rintro ⟨hnodup, htail⟩
            refine ⟨List.nodup_cons.mpr ⟨?_, hnodup⟩, ?_⟩
            · intro hmem
              obtain ⟨step, hstep, heq⟩ := List.mem_map.mp hmem
              exact (htail step hstep).2.1 (by simp [heq])
            · intro step hstep
              rcases List.mem_cons.mp hstep with rfl | hstep
              · exact hpasses
              · obtain ⟨hid, hseen, hrest⟩ := htail step hstep
                exact ⟨hid, fun h => hseen (by simp [h]), hrest⟩
          · rintro ⟨hnodup, hall⟩
            obtain ⟨hfresh, hnodup⟩ := List.nodup_cons.mp hnodup
            refine ⟨hnodup, fun step hstep => ?_⟩
            obtain ⟨hid, hseen, hrest⟩ :=
              hall step (List.mem_cons_of_mem head hstep)
            have hne : step.id ≠ head.id := by
              intro heq
              exact hfresh (heq ▸ List.mem_map_of_mem hstep)
            exact ⟨hid, by simp [hseen, hne], hrest⟩

theorem validateDependsOn_eq_ok {ids deps : List String} {stepId : String}
    (h : ∀ dep ∈ deps, dep ∈ ids ∧ dep ≠ stepId) :
    validateDependsOn ids stepId deps = .ok () := by
  induction deps with
  | nil => rfl
  | cons dep rest ih =>
      obtain ⟨hknown, hself⟩ := h dep List.mem_cons_self
      rw [validateDependsOn, if_neg (not_not.mpr hknown), if_neg hself]
      exact ih fun other hother => h other (List.mem_cons_of_mem dep hother)

theorem validateDependencies_eq_ok {ids : List String}
    {steps : List PlanStep}
    (h : ∀ step ∈ steps, ∀ dep ∈ step.dependsOn, dep ∈ ids ∧ dep ≠ step.id) :
    validateDependencies ids steps = .ok () := by
  induction steps with
  | nil => rfl
  | cons step rest ih =>
      rw [validateDependencies,
        validateDependsOn_eq_ok (h step List.mem_cons_self)]
      exact ih fun other hother => h other (List.mem_cons_of_mem step hother)

theorem validateDependencies_iff {doc : PlanDoc} :
    validateDependencies doc.ids doc.outline.steps = .ok () ↔
      doc.Known ∧ ∀ stepId, ¬doc.DependsOn stepId stepId := by
  constructor
  · intro h
    have hall := validateDependencies_ok h
    constructor
    · rintro _ dep ⟨step, hstep, rfl, hdep⟩
      exact (hall _ (List.mem_map_of_mem hstep) dep hdep).1
    · rintro _ ⟨step, hstep, rfl, hdep⟩
      exact (hall _ (List.mem_map_of_mem hstep) step.id hdep).2 rfl
  · rintro ⟨hknown, hself⟩
    apply validateDependencies_eq_ok
    intro node hnode dep hdep
    obtain ⟨step, hstep, rfl⟩ := List.mem_map.mp hnode
    refine ⟨hknown step.id dep ⟨step, hstep, rfl, hdep⟩, ?_⟩
    rintro rfl
    exact hself _ ⟨step, hstep, rfl, hdep⟩

theorem validateDoc_eq_ok {doc : PlanDoc} : validateDoc doc = .ok () ↔
    strip doc.planId ≠ "" ∧ doc.status ∈ planStatuses ∧ doc.steps ≠ [] ∧
      validateStepDocs doc.steps [] = .ok () ∧
      validateDependencies doc.ids doc.outline.steps = .ok () ∧
      ∃ order, topoOrder doc.outline = .ok order := by
  by_cases hid : strip doc.planId = ""
  · simp [validateDoc, hid]
  by_cases hstatus : doc.status ∈ planStatuses
  · by_cases hsteps : doc.steps = []
    · simp [validateDoc, hid, hstatus, hsteps]
    · cases hall : validateStepDocs doc.steps [] with
      | error e => simp [validateDoc, hid, hstatus, hsteps, hall]
      | ok =>
          cases hdeps : validateDependencies doc.ids doc.outline.steps with
          | error e => simp [validateDoc, hid, hstatus, hsteps, hall, hdeps]
          | ok =>
              cases horder : topoOrder doc.outline <;>
                simp [validateDoc, hid, hstatus, hsteps, hall, hdeps, horder]
  · simp [validateDoc, hid, hstatus]

theorem validateDoc_iff {doc : PlanDoc} :
    validateDoc doc = .ok () ↔ doc.Valid := by
  rw [validateDoc_eq_ok, validateStepDocs_ok, validateDependencies_iff]
  constructor
  · rintro ⟨hid, hstatus, hne, ⟨hnodup, hsteps⟩, ⟨hknown, hself⟩, order,
      horder⟩
    exact
      { planId := hid
        status := hstatus
        nonempty := hne
        named := fun step hstep => (hsteps step hstep).1
        unique := hnodup
        statuses := fun step hstep => (hsteps step hstep).2.2.1
        modes := fun step hstep => (hsteps step hstep).2.2.2
        known := hknown
        irreflexive := hself
        acyclic := acyclic_of_topoOrder hnodup hknown horder }
  · intro h
    exact ⟨h.planId, h.status, h.nonempty,
      ⟨h.unique, fun step hstep => ⟨h.named step hstep,
        List.not_mem_nil, h.statuses step hstep, h.modes step hstep⟩⟩,
      ⟨h.known, h.irreflexive⟩, _, topoOrder_eq_ok h.unique h.known h.acyclic⟩

/-- Validation accepts the valid plans; the order exists iff they are acyclic.
-/
theorem validation_exact (doc : PlanDoc) :
    (validateDoc doc = .ok () ↔ doc.Valid) ∧
      (doc.ids.Nodup → doc.Known →
        ((∃ order, topoOrder doc.outline = .ok order ∧
          order.Perm doc.ids ∧ doc.Precedes order) ↔ doc.Acyclic) ∧
        (¬doc.Acyclic → ∃ e, topoOrder doc.outline = .error e)) :=
  ⟨validateDoc_iff, fun hnodup hknown =>
    ⟨topoOrder_iff hnodup hknown, topoOrder_raises hnodup hknown⟩⟩

namespace ValidationWitness

def diamond : PlanDoc :=
  { planId := "diamond"
    steps :=
      [{ id := "a" },
        { id := "b", dependsOn := ["a"] },
        { id := "c", dependsOn := ["a"] },
        { id := "d", dependsOn := ["b", "c"] }] }

theorem diamond_valid : validateDoc diamond = .ok () := by decide +kernel

/-- The diamond has an order. -/
theorem diamond_ordered :
    ∃ order, topoOrder diamond.outline = .ok order ∧
      order.Perm diamond.ids ∧ diamond.Precedes order := by
  have hvalid := validateDoc_iff.mp diamond_valid
  exact (((validation_exact diamond).2 hvalid.unique hvalid.known).1).mpr
    hvalid.acyclic

def empty : PlanDoc := { planId := "empty" }

def twice : PlanDoc :=
  { planId := "twice"
    steps :=
      [{ id := "a" },
        { id := "b", dependsOn := ["a"] },
        { id := "b", dependsOn := ["a"] }] }

/-- A plan without steps is refused; equal ids leave an acyclic graph unordered.
-/
theorem empty_refused_twice_unordered :
    (empty.ids.Nodup ∧ (∀ step ∈ empty.steps, strip step.id ≠ "" ∧
      step.status ∈ stepStatuses ∧ step.mode ∈ stepModes) ∧
      empty.Known ∧ empty.Acyclic ∧ validateDoc empty ≠ .ok ()) ∧
    (twice.Known ∧ twice.Acyclic ∧
      ∀ order, topoOrder twice.outline ≠ .ok order) := by
  have hnone : ∀ stepId dep, ¬empty.DependsOn stepId dep := by
    rintro stepId dep ⟨step, hstep, _⟩
    exact List.not_mem_nil hstep
  have htwice : ∀ {stepId dep}, twice.DependsOn stepId dep →
      stepId = "b" ∧ dep = "a" := by
    rintro stepId dep ⟨step, hstep, rfl, hdep⟩
    simp only [twice, List.mem_cons, List.not_mem_nil, or_false] at hstep
    rcases hstep with rfl | rfl | rfl <;> simp_all
  refine ⟨⟨by decide, ?_, ?_, ?_, by decide +kernel⟩, ?_, ?_, ?_⟩
  · intro step hstep
    exact absurd hstep List.not_mem_nil
  · intro stepId dep hdep
    exact absurd hdep (hnone stepId dep)
  · intro stepId hcycle
    obtain ⟨dep, hedge, _⟩ := Relation.TransGen.head'_iff.mp hcycle
    exact hnone stepId dep hedge
  · intro stepId dep hdep
    rw [(htwice hdep).2]
    decide
  · intro stepId hcycle
    obtain ⟨dep, hfirst, _⟩ := Relation.TransGen.head'_iff.mp hcycle
    obtain ⟨_, _, hlast⟩ := Relation.TransGen.tail'_iff.mp hcycle
    have hb := (htwice hfirst).1
    have ha := (htwice hlast).2
    exact absurd (hb.symm.trans ha) (by decide)
  · intro order horder
    have hlength := (topoOrder_ok horder).2
    exact absurd hlength (by decide +kernel)

end ValidationWitness

end Voly
