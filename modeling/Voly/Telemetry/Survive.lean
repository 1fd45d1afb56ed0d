/-
Task events that are emitted and loaded again: which fields come back.
-/
import Voly.Python.Repr
import Voly.Telemetry.Events

namespace Voly.Telemetry

open Python

section Values

variable {data : Doc} {key : String}

theorem defaulted_of {A : Type} {read : Doc → Option A} {default a : A}
    {value : Doc} (h : data.field? key = some value)
    (hread : read value = some a) :
    defaulted data key read default = some a := by
  rw [defaulted, h]
  exact hread

theorem intOr_intDoc {n default : Int}
    (h : data.field? key = some (intDoc n)) :
    intOr data key default = some (if n = 0 then default else n) := by
  rw [intOr, truthyField, h]
  by_cases hzero : n = 0
  · simp [Option.filter, truthy_intDoc, hzero]
  · simp [Option.filter, truthy_intDoc, hzero]

/-- A float that is zero is read as `0.0`. -/
def orZero (x : JsonNumber) : JsonNumber :=
  if isZero x.text then zeroFloat else x

theorem floatOrZero_toDoc {x : JsonNumber}
    (h : data.field? key = some x.toDoc) :
    floatOrZero data key = some (orZero x) := by
  rw [floatOrZero, truthyField, h, orZero]
  cases hzero : isZero x.text <;> simp [Option.filter, truthy_toDoc, hzero]

theorem textOrNone_textOrNull {text : Option String}
    (h : data.field? key = some (textOrNull text)) :
    textOrNone data key = some text := by
  have hread := @optional?_optionDoc String Doc.str? Doc.str
    (fun _ => rfl) (fun _ => rfl) text
  exact defaulted_of h hread

theorem floatOrNone_optionDoc {x : Option JsonNumber}
    (h : data.field? key = some (optionDoc JsonNumber.toDoc x)) :
    floatOrNone data key = some x :=
  defaulted_of h (optional?_optionDoc num?_toDoc isNone_toDoc x)

theorem textOrLegacy_textOrNull {legacy : String} {text : Option String}
    (h : data.field? key = some (textOrNull text))
    (hlegacy : data.field? legacy = none) :
    textOrLegacy data key legacy = some (text.filter fun s => s ≠ "") := by
  have hnone : textOrNone data legacy = some none := by
    rw [textOrNone, defaulted, hlegacy]
  rw [textOrLegacy, truthyField, h]
  cases text with
  | none => exact hnone
  | some s =>
      by_cases hempty : s = ""
      · simp [textOrNull, optionDoc, Option.filter, truthy, hempty, hnone]
      · simp [textOrNull, optionDoc, Option.filter, truthy, hempty]

theorem listOrEmpty_list {items : List Doc}
    (h : data.field? key = some (.list items)) :
    listOrEmpty data key = some items := by
  rw [listOrEmpty, truthyField, h]
  cases items <;> simp [Option.filter, truthy]

theorem digitsOrNone_optionDoc {version : Option Int}
    (h : data.field? key = some (optionDoc intDoc version)) :
    digitsOrNone data key = version.filter fun n => 0 ≤ n := by
  rw [digitsOrNone, h]
  cases version with
  | none => decide +kernel
  | some n =>
      cases n with
      | ofNat n =>
          have hne : Nat.toDigits 10 n ≠ [] := Nat.toDigits_ne_nil
          have htext : digitsText (intDoc n) = Nat.toDigits 10 n := rfl
          have hnat : (0 : Int) ≤ Int.ofNat n := Int.natCast_nonneg n
          simp [optionDoc, htext, hne, digits_toDigits, Option.filter,
            Nat.ofDigitChars_ten_toDigits]
      | negSucc n =>
          have htext : digitsText (intDoc (Int.negSucc n)) =
              '-' :: Nat.toDigits 10 (n + 1) := rfl
          simp [optionDoc, htext, Option.filter]

end Values

theorem tokens_fromDoc (tokens : TokenMetrics) :
    TokenMetrics.fromDoc tokens.toDoc = some tokens := by
  simp [TokenMetrics.fromDoc, TokenMetrics.toDoc, truthy, knownKeys,
    defaulted, Doc.field?, Dict.get?]

theorem gateway_fromDoc (gateway : GatewayMetrics) :
    GatewayMetrics.fromDoc gateway.toDoc = some gateway := by
  simp [GatewayMetrics.fromDoc, GatewayMetrics.toDoc, truthy, knownKeys,
    defaulted, Doc.field?, Dict.get?]

/-- What is read back from the text of an event. -/
def TaskEvent.reloaded (event : TaskEvent) : TaskEvent where
  taskId := event.taskId
  agent := event.agent
  status := event.status
  schemaVersion := if event.schemaVersion = 0 then 1 else event.schemaVersion
  correlationId := event.correlationId
  tokens := event.tokens
  gateway := event.gateway
  skillIds := event.skillIds
  workflow := event.workflow
  routingScore := event.routingScore
  costUsd := event.costUsd
  durationMs := event.durationMs
  model := event.model
  provider := event.provider
  executor := event.executor
  taskType := event.taskType
  automationScore := orZero event.automationScore
  manualStepsRemoved := event.manualStepsRemoved
  retryCount := event.retryCount
  retryCostUsd := orZero event.retryCostUsd
  error := event.error
  errorClass := event.errorClass
  dspyEnabled := event.dspyEnabled
  dspyMode := event.dspyMode
  dspyProgramId := event.dspyProgramId.filter fun s => s ≠ ""
  dspyProgramVersion := event.dspyProgramVersion.filter fun n => 0 ≤ n
  dspyProgramTag := event.dspyProgramTag
  dspyOptimizer := event.dspyOptimizer
  dspyDataset := event.dspyDataset
  dspyCompileId := event.dspyCompileId.filter fun s => s ≠ ""
  dspyScore := event.dspyScore
  dspyShadowDelta := event.dspyShadowDelta
  artifacts := event.artifacts

section Event

variable (event : TaskEvent)

theorem ite_zero_self (n : Int) : (if n = 0 then 0 else n) = n := by
  split
  · next hzero => exact hzero.symm
  · rfl

theorem read_text {default text : String} {key : String}
    (h : event.toDict.field? key = some (.str text)) :
    defaulted event.toDict key Doc.str? default = some text :=
  defaulted_of h rfl

theorem read_float {default x : JsonNumber} {key : String}
    (h : event.toDict.field? key = some x.toDoc) :
    defaulted event.toDict key Doc.num? default = some x :=
  defaulted_of h (num?_toDoc x)

theorem fromDoc_toDict :
    TaskEvent.fromDoc event.toDict = some event.reloaded := by
  have hid : required event.toDict "task_id" Doc.str? = some event.taskId :=
    rfl
  have htokens : defaulted event.toDict "tokens" TokenMetrics.fromDoc {} =
      some event.tokens :=
    defaulted_of rfl (tokens_fromDoc event.tokens)
  have hgateway : defaulted event.toDict "gateway" GatewayMetrics.fromDoc {} =
      some event.gateway :=
    defaulted_of rfl (gateway_fromDoc event.gateway)
  have hskills : defaulted event.toDict "skill_ids" Doc.strings? [] =
      some event.skillIds :=
    defaulted_of rfl (strings?_stringsDoc event.skillIds)
  have henabled : defaulted event.toDict "dspy_enabled"
      (fun value => some (truthy value)) false = some event.dspyEnabled :=
    defaulted_of rfl (congrArg some (truthy_boolDoc event.dspyEnabled))
  simp only [TaskEvent.fromDoc, hid, htokens, hgateway, hskills, henabled,
    @read_text event "" event.agent "agent" rfl,
    @read_text event "" event.status "status" rfl,
    @read_text event "" event.model "model" rfl,
    @read_text event "" event.provider "provider" rfl,
    @read_text event "" event.executor "executor" rfl,
    @read_float event zeroFloat event.routingScore "routing_score" rfl,
    @read_float event zeroFloat event.costUsd "cost_usd" rfl,
    @read_float event zeroFloat event.durationMs "duration_ms" rfl,
    @intOr_intDoc event.toDict "schema_version" _ 1 rfl,
    @intOr_intDoc event.toDict "manual_steps_removed" _ 0 rfl,
    @intOr_intDoc event.toDict "retry_count" _ 0 rfl, ite_zero_self,
    @floatOrZero_toDoc event.toDict "automation_score" _ rfl,
    @floatOrZero_toDoc event.toDict "retry_cost_usd" _ rfl,
    @textOrNone_textOrNull event.toDict "correlation_id" _ rfl,
    @textOrNone_textOrNull event.toDict "workflow" _ rfl,
    @textOrNone_textOrNull event.toDict "task_type" _ rfl,
    @textOrNone_textOrNull event.toDict "error" _ rfl,
    @textOrNone_textOrNull event.toDict "error_class" _ rfl,
    @textOrNone_textOrNull event.toDict "dspy_mode" _ rfl,
    @textOrNone_textOrNull event.toDict "dspy_program_tag" _ rfl,
    @textOrNone_textOrNull event.toDict "dspy_optimizer" _ rfl,
    @textOrNone_textOrNull event.toDict "dspy_dataset" _ rfl,
    @textOrLegacy_textOrNull event.toDict "dspy_program_id" "dspy_program" _
      rfl rfl,
    @textOrLegacy_textOrNull event.toDict "dspy_compile_id"
      "dspy_compiled_version" _ rfl rfl,
    @digitsOrNone_optionDoc event.toDict "dspy_program_version" _ rfl,
    @floatOrNone_optionDoc event.toDict "dspy_score" _ rfl,
    @floatOrNone_optionDoc event.toDict "dspy_shadow_delta" _ rfl,
    @listOrEmpty_list event.toDict "artifacts" _ rfl,
    Option.bind_eq_bind, Option.bind_some]
  rfl

end Event

theorem read_toJson (event : TaskEvent) :
    loads event.toJson >>= TaskEvent.fromDoc = some event.reloaded := by
  rw [TaskEvent.toJson, loads_write, Option.bind_eq_bind, Option.bind_some,
    fromDoc_toDict]

/-- Python finds the numbers equal: they are written the same, or both are
zero. -/
def SameNumber (x y : JsonNumber) : Prop :=
  x = y ∨ isZero x.text = true ∧ isZero y.text = true

/-- The events are equal in every field. -/
structure TaskEvent.Same (event loaded : TaskEvent) : Prop where
  floats : SameNumber event.routingScore loaded.routingScore ∧
    SameNumber event.costUsd loaded.costUsd ∧
    SameNumber event.durationMs loaded.durationMs ∧
    SameNumber event.automationScore loaded.automationScore ∧
    SameNumber event.retryCostUsd loaded.retryCostUsd
  others : { event with
    routingScore := loaded.routingScore
    costUsd := loaded.costUsd
    durationMs := loaded.durationMs
    automationScore := loaded.automationScore
    retryCostUsd := loaded.retryCostUsd } = loaded

/-- Fields not read have their defaults; ids and versions are not empty. -/
structure Kept (event : TaskEvent) : Prop where
  schemaVersion : event.schemaVersion ≠ 0
  memoryHits : event.memoryHits = 0
  dspyUsed : event.dspyUsed = false
  dspyProgramId : event.dspyProgramId ≠ some ""
  dspyProgramVersion : ∀ n ∈ event.dspyProgramVersion, 0 ≤ n
  dspyCompileId : event.dspyCompileId ≠ some ""
  taskPrompt : event.taskPrompt = none
  result : event.result = none
  stageLog : event.stageLog = []
  report : event.report = none
  chainTimelog : event.chainTimelog = []
  a2aDispatched : event.a2aDispatched = false
  a2aSubtaskCount : event.a2aSubtaskCount = 0
  a2aAgentsUsed : event.a2aAgentsUsed = []
  a2aAssignments : event.a2aAssignments = []
  signal : event.signal = none
  businessPlan : event.businessPlan = none

theorem sameNumber_refl (x : JsonNumber) : SameNumber x x := Or.inl rfl

theorem sameNumber_orZero (x : JsonNumber) : SameNumber x (orZero x) := by
  unfold orZero
  split
  · next hzero => exact Or.inr ⟨hzero, by decide +kernel⟩
  · exact sameNumber_refl x

theorem filter_eq_self_iff {A : Type} {keep : A → Bool} {value : Option A} :
    value = value.filter keep ↔ ∀ a ∈ value, keep a = true := by
  cases value with
  | none => simp
  | some a => cases hkeep : keep a <;> simp [Option.filter, hkeep]

theorem ids_kept_iff {text : Option String} :
    text = text.filter (fun s => s ≠ "") ↔ text ≠ some "" := by
  rw [filter_eq_self_iff]
  cases text <;> simp

theorem same_reloaded_iff (event : TaskEvent) :
    event.Same event.reloaded ↔ Kept event := by
  constructor
  · rintro ⟨_, hothers⟩
    refine ⟨?_, congrArg TaskEvent.memoryHits hothers,
      congrArg TaskEvent.dspyUsed hothers,
      ids_kept_iff.mp (congrArg TaskEvent.dspyProgramId hothers), ?_,
      ids_kept_iff.mp (congrArg TaskEvent.dspyCompileId hothers),
      congrArg TaskEvent.taskPrompt hothers,
      congrArg TaskEvent.result hothers, congrArg TaskEvent.stageLog hothers,
      congrArg TaskEvent.report hothers,
      congrArg TaskEvent.chainTimelog hothers,
      congrArg TaskEvent.a2aDispatched hothers,
      congrArg TaskEvent.a2aSubtaskCount hothers,
      congrArg TaskEvent.a2aAgentsUsed hothers,
      congrArg TaskEvent.a2aAssignments hothers,
      congrArg TaskEvent.signal hothers,
      congrArg TaskEvent.businessPlan hothers⟩
    · have hversion := congrArg TaskEvent.schemaVersion hothers
      intro hzero
      simp [TaskEvent.reloaded, hzero] at hversion
    · have hversion := congrArg TaskEvent.dspyProgramVersion hothers
      intro n hn
      exact of_decide_eq_true (filter_eq_self_iff.mp hversion n hn)
  · intro h
    have hprogram := ids_kept_iff.mpr h.dspyProgramId
    have hcompile := ids_kept_iff.mpr h.dspyCompileId
    have hversion : event.dspyProgramVersion =
        event.dspyProgramVersion.filter fun n => 0 ≤ n :=
      filter_eq_self_iff.mpr fun n hn =>
        decide_eq_true (h.dspyProgramVersion n hn)
    refine ⟨⟨sameNumber_refl _, sameNumber_refl _, sameNumber_refl _,
      sameNumber_orZero _, sameNumber_orZero _⟩, ?_⟩
    rw [TaskEvent.reloaded, ← hprogram, ← hcompile, ← hversion,
      if_neg h.schemaVersion]
    simp [h.memoryHits, h.dspyUsed, h.taskPrompt, h.result, h.stageLog,
      h.report, h.chainTimelog, h.a2aDispatched, h.a2aSubtaskCount,
      h.a2aAgentsUsed, h.a2aAssignments, h.signal, h.businessPlan]

/-- The events are emitted one after the other. -/
def emitAll (files : List EventFile) (events : List TaskEvent) :
    List EventFile :=
  events.foldl emitEvent files

def loadedOf (files : List EventFile) (events : List TaskEvent) :
    List TaskEvent :=
  ((loadNamed files).filter fun loaded =>
    (events.map fun event => event.file.name).contains loaded.1).map Prod.snd

section Emitted

variable {files : List EventFile} {events : List TaskEvent}

theorem isJson_file (event : TaskEvent) : event.file.isJson = true := by
  rw [EventFile.isJson, List.isSuffixOf_iff_suffix, TaskEvent.file,
    String.toList_append]
  exact List.suffix_append _ _

theorem nodup_names (hids : (events.map TaskEvent.taskId).Nodup) :
    (events.map fun event => event.file.name).Nodup := by
  have hnames : (events.map fun event => event.file.name) =
      (events.map TaskEvent.taskId).map (· ++ ".json") := by
    rw [List.map_map]
    rfl
  rw [hnames]
  refine hids.map fun a b hab => ?_
  have htext := congrArg String.toList hab
  simp only [String.toList_append] at htext
  exact String.toList_injective (List.append_cancel_right htext)

/-- The directory holds the events' files and the others that it had. -/
theorem mem_emitAll (hfiles : (files.map EventFile.name).Nodup)
    (hplain : ∀ event ∈ events, isPlainName event.taskId = true)
    (hnames : (events.map fun event => event.file.name).Nodup)
    {file : EventFile} : file ∈ emitAll files events ↔
      (∃ event ∈ events, event.file = file) ∨
        file ∈ files ∧ file.name ∉ events.map fun event => event.file.name := by
  induction events generalizing files with
  | nil => simp [emitAll]
  | cons event rest ih =>
      rw [List.map_cons, List.nodup_cons] at hnames
      have hput : emitEvent files event =
          Keyed.put EventFile.name event.file files :=
        if_pos (hplain event List.mem_cons_self)
      have hnodup : ((Keyed.put EventFile.name event.file files).map
          EventFile.name).Nodup := Keyed.nodup_put hfiles
      have hrest := ih hnodup
        (fun other hother => hplain other (List.mem_cons_of_mem _ hother))
        hnames.2
      rw [emitAll, List.foldl_cons, hput]
      rw [emitAll] at hrest
      rw [hrest, Keyed.mem_put hfiles]
      constructor
      · rintro (⟨other, hother, rfl⟩ | ⟨rfl | ⟨hheld, hname⟩, hother⟩)
        · exact Or.inl ⟨other, List.mem_cons_of_mem _ hother, rfl⟩
        · exact Or.inl ⟨event, List.mem_cons_self, rfl⟩
        · refine Or.inr ⟨hheld, ?_⟩
          rw [List.map_cons, List.mem_cons]
          exact not_or.mpr ⟨hname, hother⟩
      · rintro (⟨other, hother, rfl⟩ | ⟨hheld, hname⟩)
        · rcases List.mem_cons.mp hother with rfl | hother
          · exact Or.inr ⟨Or.inl rfl, hnames.1⟩
          · exact Or.inl ⟨other, hother, rfl⟩
        · rw [List.map_cons, List.mem_cons, not_or] at hname
          exact Or.inr ⟨Or.inr ⟨hheld, hname.1⟩, hname.2⟩

theorem nodup_emitAll (hfiles : (files.map EventFile.name).Nodup) :
    ((emitAll files events).map EventFile.name).Nodup := by
  induction events generalizing files with
  | nil => exact hfiles
  | cons event rest ih =>
      apply ih
      rw [emitEvent]
      split
      · exact Keyed.nodup_put hfiles
      · exact hfiles

/-- The files of the events, in the order of their names. -/
def filesOf (files : List EventFile) (events : List TaskEvent) :
    List EventFile :=
  ((files.filter EventFile.isJson).mergeSort
    fun a b => decide (a.name ≤ b.name)).filter fun file =>
      (events.map fun event => event.file.name).contains file.name

theorem filter_named {A B : Type} (name : A → String) (read : A → Option B)
    (keep : String → Bool) (xs : List A) :
    ((xs.filterMap fun x => (read x).map fun b => (name x, b)).filter
        fun named => keep named.1).map Prod.snd =
      (xs.filter fun x => keep (name x)).filterMap read := by
  induction xs with
  | nil => rfl
  | cons x xs ih =>
      cases hread : read x <;> cases hkeep : keep (name x) <;>
        simp [hread, hkeep, ih]

theorem loadedOf_eq : loadedOf files events =
    (filesOf files events).filterMap fun file =>
      loads file.text >>= TaskEvent.fromDoc :=
  filter_named EventFile.name _ _ _

theorem filesOf_perm (hfiles : (files.map EventFile.name).Nodup)
    (hplain : ∀ event ∈ events, isPlainName event.taskId = true)
    (hids : (events.map TaskEvent.taskId).Nodup) :
    (filesOf (emitAll files events) events).Perm
      (events.map TaskEvent.file) := by
  have hnames := nodup_names hids
  have hnodup : (events.map TaskEvent.file).Nodup := by
    have hmap : (events.map TaskEvent.file).map EventFile.name =
        events.map fun event => event.file.name := by
      rw [List.map_map]
      rfl
    rw [← hmap] at hnames
    exact hnames.of_map
  have hsorted : (filesOf (emitAll files events) events).Nodup := by
    refine List.Nodup.filter _ ?_
    rw [(List.mergeSort_perm _ _).nodup_iff]
    exact List.Nodup.filter _ (nodup_emitAll hfiles).of_map
  refine (List.perm_ext_iff_of_nodup hsorted hnodup).mpr fun file => ?_
  rw [filesOf, List.mem_filter, List.mem_mergeSort, List.mem_filter,
    mem_emitAll hfiles hplain hnames, List.contains_iff_mem]
  constructor
  · rintro ⟨⟨hfile | ⟨_, hother⟩, _⟩, hname⟩
    · exact List.mem_map.mpr hfile
    · exact absurd hname hother
  · intro hfile
    obtain ⟨event, hevent, rfl⟩ := List.mem_map.mp hfile
    exact ⟨⟨Or.inl ⟨event, hevent, rfl⟩, isJson_file event⟩,
      List.mem_map_of_mem hevent⟩

theorem exists_loaded (hfiles : (files.map EventFile.name).Nodup)
    (hplain : ∀ event ∈ events, isPlainName event.taskId = true)
    (hids : (events.map TaskEvent.taskId).Nodup) :
    ∃ order : List TaskEvent, order.Perm events ∧
      loadedOf (emitAll files events) events =
        order.map TaskEvent.reloaded := by
  have hcomp := List.eq_map_comp_perm TaskEvent.file
  obtain ⟨order, horder, hevents⟩ :=
    (congrFun (congrFun hcomp _) events).mpr
      (filesOf_perm hfiles hplain hids)
  refine ⟨order, hevents, ?_⟩
  rw [loadedOf_eq, horder, List.filterMap_map]
  have hread : ∀ event ∈ order, ((fun file : EventFile =>
      loads file.text >>= TaskEvent.fromDoc) ∘ TaskEvent.file) event =
        some event.reloaded :=
    fun event _ => read_toJson event
  rw [List.filterMap_congr hread, ← List.filterMap_eq_map]
  rfl

end Emitted

theorem exists_of_forall₂ {A B : Type} {R : A → B → Prop} {xs : List A}
    {ys : List B} (h : List.Forall₂ R xs ys) {y : B} (hy : y ∈ ys) :
    ∃ x ∈ xs, R x y := by
  induction h with
  | nil => cases hy
  | cons hfirst _ ih =>
      rcases List.mem_cons.mp hy with rfl | hy
      · exact ⟨_, List.mem_cons_self, hfirst⟩
      · obtain ⟨x, hx, hxy⟩ := ih hy
        exact ⟨x, List.mem_cons_of_mem _ hx, hxy⟩

/-- Loaded again, the events are the emitted ones in some order iff each is
kept. -/
theorem events_survive_iff (files : List EventFile)
    (hfiles : (files.map EventFile.name).Nodup) (events : List TaskEvent)
    (hplain : ∀ event ∈ events, isPlainName event.taskId = true)
    (hids : (events.map TaskEvent.taskId).Nodup) :
    (∃ order : List TaskEvent, order.Perm events ∧
      List.Forall₂ TaskEvent.Same order
        (loadedOf (emitAll files events) events)) ↔
      ∀ event ∈ events, Kept event := by
  obtain ⟨order, horder, hloaded⟩ := exists_loaded hfiles hplain hids
  rw [hloaded]
  constructor
  · rintro ⟨others, hothers, hsame⟩ event hevent
    have hread := List.mem_map_of_mem (f := TaskEvent.reloaded)
      (horder.mem_iff.mpr hevent)
    obtain ⟨other, hother, hequal⟩ := exists_of_forall₂ hsame hread
    have hfields := hequal.others
    have hid : other.taskId = event.taskId := by
      have htask := congrArg TaskEvent.taskId hfields
      exact htask
    have heq := List.inj_on_of_nodup_map hids (hothers.mem_iff.mp hother)
      hevent hid
    rw [heq] at hequal
    exact (same_reloaded_iff event).mp hequal
  · intro hkept
    refine ⟨order, horder, List.forall₂_map_right_iff.mpr
      (List.forall₂_same.mpr fun event hevent => ?_)⟩
    exact (same_reloaded_iff event).mpr
      (hkept event (horder.mem_iff.mp hevent))

namespace SurviveWitness

def plain : TaskEvent where
  taskId := "t-1"
  agent := "coder"
  status := "completed"

def remembering : TaskEvent := { plain with memoryHits := 3 }

theorem memory_hits_lost : ¬∃ order : List TaskEvent,
    order.Perm [remembering] ∧ List.Forall₂ TaskEvent.Same order
      (loadedOf (emitAll [] [remembering]) [remembering]) := by
  rintro ⟨order, horder, hsame⟩
  have hplain : ∀ event ∈ [remembering],
      isPlainName event.taskId = true := by
    decide +kernel
  obtain ⟨read, hread, hloaded⟩ := @exists_loaded [] [remembering]
    List.nodup_nil hplain (List.nodup_singleton remembering.taskId)
  rw [hloaded, List.perm_singleton.mp hread,
    List.perm_singleton.mp horder] at hsame
  have hkept := (same_reloaded_iff remembering).mp
    (List.forall₂_cons.mp hsame).1
  exact absurd hkept.memoryHits (by decide)

def priced : TaskEvent :=
  { plain with
    taskId := "t-2"
    status := "failed"
    tokens := { input := 120, output := 7 }
    gateway := { fallbackUsed := true, fallbackModel := "small" }
    skillIds := ["docs"]
    retryCount := 2
    errorClass := some "timeout"
    dspyProgramId := some "summary"
    dspyProgramVersion := some 3 }

theorem plain_and_priced_survive : ∃ order : List TaskEvent,
    order.Perm [plain, priced] ∧ List.Forall₂ TaskEvent.Same order
      (loadedOf (emitAll [⟨"t-0.json", ['{', '}']⟩] [plain, priced])
        [plain, priced]) := by
  refine (events_survive_iff [⟨"t-0.json", ['{', '}']⟩] (by decide +kernel)
    [plain, priced] (by decide +kernel) (by decide +kernel)).mpr ?_
  rw [List.forall_mem_cons, List.forall_mem_singleton]
  constructor
  · constructor <;> simp [plain, taskEventSchemaVersion]
  · constructor <;> simp [priced, plain, taskEventSchemaVersion]

end SurviveWitness

end Voly.Telemetry
