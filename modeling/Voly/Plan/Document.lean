/-
Plan documents: what `to_dict` writes, and what `from_dict` makes of it.
-/
import Voly.Plan.Criteria

namespace Python

def Json.typeName : Json → String
  | .null => "NoneType"
  | .bool _ => "bool"
  | .num value => if value.den = 1 then "int" else "float"
  | .str _ => "str"
  | .arr _ => "list"
  | .obj _ => "dict"

/-- The conversions `str`, `int`, `float` and `repr` of decoded values. -/
structure Builtins where
  str : Json → String
  repr : Json → String
  int : Json → Except String Int
  float : Json → Except String Rat
  str_text : ∀ s, str (.str s) = s
  int_num : ∀ n : Int, int (.num n) = .ok n
  float_num : ∀ q, float (.num q) = .ok q

namespace Builtins

variable (py : Builtins)

/-- `str(data.get(key) or default)`. -/
def text (d : Dict Json) (key default : String) : String :=
  match d.truthy? key with
  | none => default
  | some value => py.str value

/-- `[str(x) for x in value]` over a list, a text or an object's keys. -/
def strings : Json → Except String (List String)
  | .arr items => .ok (items.map py.str)
  | .str s => .ok (s.toList.map fun c => String.ofList [c])
  | .obj items => .ok (items.map Prod.fst)
  | _ => .error "object is not iterable"

/-- `[str(x) for x in (data.get(key) or [])]`. -/
def stringList (d : Dict Json) (key : String) :
    Except String (List String) :=
  match d.truthy? key with
  | none => .ok []
  | some value => py.strings value

/-- `int(data.get(key, default))`. -/
def intOf (d : Dict Json) (key : String) (default : Int) :
    Except String Int :=
  match d.get? key with
  | none => .ok default
  | some value => py.int value

/-- `float(data.get(key) or 0.0)`. -/
def floatOf (d : Dict Json) (key : String) : Except String Rat :=
  match d.truthy? key with
  | none => .ok 0
  | some value => py.float value

variable {py} {d : Dict Json} {key : String}

theorem text_of_get? {s default : String} (h : d.get? key = some (.str s)) :
    py.text d key default = orElse s default := by
  unfold text Dict.truthy? orElse
  rw [h]
  by_cases hs : s = ""
  · simp [Json.truthy, hs]
  · simp [Json.truthy, hs, py.str_text]

theorem stringList_of_get? {xs : List String}
    (h : d.get? key = some (.ofStrings xs)) : py.stringList d key = .ok xs := by
  unfold stringList Dict.truthy?
  rw [h]
  cases xs with
  | nil => rfl
  | cons head tail =>
      have hmap : (tail.map Json.str).map py.str = tail := by
        rw [List.map_map]
        exact (List.map_congr_left fun s _ => py.str_text s).trans
          (List.map_id tail)
      simp only [Json.truthy, Json.ofStrings, strings, List.map_cons,
        py.str_text, hmap, List.isEmpty_cons, Bool.not_false, if_true]

theorem floatOf_of_get? {q : Rat} (h : d.get? key = some (.num q)) :
    py.floatOf d key = .ok q := by
  unfold floatOf Dict.truthy?
  rw [h]
  by_cases hq : q = 0
  · simp [Json.truthy, hq]
  · simp [Json.truthy, hq, py.float_num]

theorem intOf_of_get? {n default : Int} (h : d.get? key = some (.num n)) :
    py.intOf d key default = .ok n := by
  unfold intOf
  rw [h]
  exact py.int_num n

theorem text_self {s : String} (h : d.get? key = some (.str s)) :
    py.text d key "" = s := by
  rw [text_of_get? h, orElse]
  split
  case isTrue hs => exact hs.symm
  case isFalse => rfl

theorem text_optional {s : String}
    (h : d.get? key = if s = "" then none else some (.str s)) :
    py.text d key "" = s := by
  split at h
  case isTrue hs => rw [text, Dict.truthy?, h, hs]
  case isFalse => exact text_self h

theorem stringList_optional {xs : List String}
    (h : d.get? key = if xs = [] then none else some (.ofStrings xs)) :
    py.stringList d key = .ok xs := by
  split at h
  case isTrue hxs => rw [stringList, Dict.truthy?, h, hxs]
  case isFalse => exact stringList_of_get? h

theorem intOf_optional {skip : Prop} [Decidable skip] {n : Int}
    (h : d.get? key = if skip then none else some (.num n)) :
    py.intOf d key 0 = .ok (if skip then 0 else n) := by
  split at h
  case isTrue hskip => rw [intOf, h, if_pos hskip]
  case isFalse hskip => rw [intOf_of_get? h, if_neg hskip]

theorem intOf_limit {n : Int}
    (h : d.get? key = if 0 < n then some (.num n) else none) :
    py.intOf d key 0 = .ok (if 0 < n then n else 0) := by
  split at h
  case isTrue hn => rw [intOf_of_get? h, if_pos hn]
  case isFalse hn => rw [intOf, h, if_neg hn]

end Builtins

end Python

namespace Voly

open Python

namespace AcceptanceCheck

def fields (check : AcceptanceCheck) : List (String × Option Json) :=
  [("type", some (.str check.type)),
    ("paths", if check.paths = [] then none else some (.ofStrings check.paths)),
    ("run", if check.run = "" then none else some (.str check.run)),
    ("expect_exit",
      if check.run = "" then none else some (.num check.expectExit)),
    ("pattern",
      if check.pattern = "" then none else some (.str check.pattern)),
    ("max_lines",
      if 0 < check.maxLines then some (.num check.maxLines) else none),
    ("approved_max_lines",
      if 0 < check.approvedMaxLines then some (.num check.approvedMaxLines)
      else none),
    ("exclude_patterns",
      if check.excludePatterns = [] then none
      else some (.ofStrings check.excludePatterns))]

def toDict (check : AcceptanceCheck) : Dict Json :=
  Dict.present check.fields

/-- What a conversion raises, as an exception of the plan subsystem. -/
def converted {A : Type} : Except String A → Except PyError A
  | .ok value => .ok value
  | .error message => .error (.value message)

def fromDict (py : Builtins) (data : Json) :
    Except PyError AcceptanceCheck :=
  match data with
  | .obj d =>
      match Dict.truthy? d "type" with
      | none =>
          .error (.validation ("invalid acceptance check: " ++ py.repr data))
      | some type => do
          let paths ← converted (py.stringList d "paths")
          let expectExit ← converted (py.intOf d "expect_exit" 0)
          let maxLines ← converted (py.intOf d "max_lines" 0)
          let approvedMaxLines ← converted (py.intOf d "approved_max_lines" 0)
          let excludePatterns ← converted (py.stringList d "exclude_patterns")
          .ok {
            type := py.str type
            paths
            run := py.text d "run" ""
            expectExit
            pattern := py.text d "pattern" ""
            maxLines
            approvedMaxLines
            excludePatterns }
  | _ => .error (.validation ("invalid acceptance check: " ++ py.repr data))

variable (check : AcceptanceCheck)

theorem get?_toDict (key : String) :
    check.toDict.get? key = (Dict.get? check.fields key).join :=
  Dict.get?_present (by simp [fields]) key

theorem fromDict_toDict (py : Builtins) :
    fromDict py (.obj check.toDict) =
      if check.type = "" then
        .error (.validation
          ("invalid acceptance check: " ++ py.repr (.obj check.toDict)))
      else .ok check.normal := by
  have htype : check.toDict.truthy? "type" =
      if check.type = "" then none else some (.str check.type) := by
    rw [Dict.truthy?, get?_toDict]
    by_cases h : check.type = "" <;>
      simp [fields, Dict.get?, Json.truthy, h]
  have hpaths : py.stringList check.toDict "paths" = .ok check.paths :=
    Builtins.stringList_optional (by rw [get?_toDict]; simp [fields, Dict.get?])
  have hrun : py.text check.toDict "run" "" = check.run :=
    Builtins.text_optional (by rw [get?_toDict]; simp [fields, Dict.get?])
  have hexit : py.intOf check.toDict "expect_exit" 0 =
      .ok (if check.run = "" then 0 else check.expectExit) :=
    Builtins.intOf_optional (by rw [get?_toDict]; simp [fields, Dict.get?])
  have hpattern : py.text check.toDict "pattern" "" = check.pattern :=
    Builtins.text_optional (by rw [get?_toDict]; simp [fields, Dict.get?])
  have hmax : py.intOf check.toDict "max_lines" 0 =
      .ok (if 0 < check.maxLines then check.maxLines else 0) :=
    Builtins.intOf_limit (by rw [get?_toDict]; simp [fields, Dict.get?])
  have happroved : py.intOf check.toDict "approved_max_lines" 0 =
      .ok (if 0 < check.approvedMaxLines then check.approvedMaxLines
        else 0) :=
    Builtins.intOf_limit (by rw [get?_toDict]; simp [fields, Dict.get?])
  have hexclude : py.stringList check.toDict "exclude_patterns" =
      .ok check.excludePatterns :=
    Builtins.stringList_optional (by rw [get?_toDict]; simp [fields, Dict.get?])
  rw [fromDict]
  by_cases h : check.type = ""
  · simp only [htype, if_pos h]
  · simp only [htype, if_neg h, hpaths, hrun, hexit, hpattern, hmax,
      happroved, hexclude, py.str_text, converted]
    rfl

end AcceptanceCheck

namespace StepMode

/-- The member of `STEP_MODES` that a mode text names. -/
def ofText? (s : String) : Option StepMode :=
  [chat, executor, business].find? fun mode => mode.text = s

theorem ofText?_text (mode : StepMode) : ofText? mode.text = some mode := by
  cases mode <;> decide

end StepMode

theorem StepStatus.ofText?_text (status : StepStatus) :
    StepStatus.ofText? status.text = some status := by
  cases status <;> decide

namespace PlanStatus

def text : PlanStatus → String
  | pending => "pending"
  | running => "running"
  | completed => "completed"
  | failed => "failed"
  | aborted => "aborted"

/-- The member of `PLAN_STATUSES` that a status text names. -/
def ofText? (s : String) : Option PlanStatus :=
  [pending, running, completed, failed, aborted].find?
    fun status => status.text = s

theorem ofText?_text (status : PlanStatus) :
    ofText? status.text = some status := by
  cases status <;> decide

end PlanStatus

/-- A text that no plan has, here refused by the load instead of `validate`. -/
def named {A : Type} (what text : String) : Option A → Except PyError A
  | some value => .ok value
  | none => .error (.validation ("invalid " ++ what ++ " " ++ quoted text))

def logEntries : List Json → Except PyError (List (Dict Json))
  | [] => .ok []
  | .obj entry :: rest => (entry :: ·) <$> logEntries rest
  | _ :: _ => .error (.value "verify_log entry is not an object")

theorem logEntries_map (log : List (Dict Json)) :
    logEntries (log.map .obj) = .ok log := by
  induction log with
  | nil => rfl
  | cons entry rest ih => rw [List.map_cons, logEntries, ih]; rfl

namespace PlanStep

def toDict (step : PlanStep) : Dict Json :=
  [("id", .str step.id),
    ("role", .str step.role),
    ("mode", .str step.mode.text),
    ("status", .str step.status.text),
    ("depends_on", .ofStrings step.dependsOn),
    ("acceptance",
      .arr (step.acceptance.map fun check => .obj check.toDict)),
    ("task", .str step.task),
    ("success_criteria", .str step.successCriteria),
    ("error", .str step.error),
    ("output", .str step.output),
    ("verify_log", .arr (step.verifyLog.map .obj)),
    ("files_touched", .ofStrings step.filesTouched),
    ("executor", .str step.executor),
    ("model", .str step.model),
    ("provider", .str step.provider),
    ("tier", .str step.tier),
    ("cost_usd", .num step.costUsd),
    ("duration_ms", .num step.durationMs),
    ("started_at", .num step.startedAt)]

/-- `str(data.get(k1) or data.get(k2) or … or "")`. -/
def firstText (py : Builtins) (d : Dict Json) : List String → String
  | [] => ""
  | key :: rest =>
      match d.truthy? key with
      | some value => py.str value
      | none => firstText py d rest

/-- `[AcceptanceCheck.from_dict(a) for a in acceptance_raw]`. -/
def readChecks (py : Builtins) :
    List Json → Except PyError (List AcceptanceCheck)
  | [] => .ok []
  | data :: rest => do
      let check ← AcceptanceCheck.fromDict py data
      let checks ← readChecks py rest
      .ok (check :: checks)

/-- `data.get(key) or []`, which has to be a list. -/
def listField (d : Dict Json) (key : String) (e : PyError) :
    Except PyError (List Json) :=
  match d.truthy? key with
  | none => .ok []
  | some (.arr items) => .ok items
  | some _ => .error e

/-- Explicit checks, or else the ones drafted from the criteria. -/
def draftUnlessGiven (criteria : CriteriaCompiler) (text : String)
    (checks : List AcceptanceCheck) : List AcceptanceCheck :=
  if checks = [] ∧ strip text ≠ "" then criteria.compile text else checks

def fromDict (py : Builtins) (criteria : CriteriaCompiler) (data : Json) :
    Except PyError PlanStep :=
  match data with
  | .obj d =>
      match Dict.truthy? d "id" with
      | none => .error (.validation ("invalid plan step: " ++ py.repr data))
      | some id => do
          let raw ← listField d "acceptance"
            (.validation ("step " ++ py.repr id ++
              ": acceptance must be a list"))
          let successCriteria := firstText py d
            ["success_criteria", "criteria", "acceptance_criteria"]
          let checks ← readChecks py raw
          let mode := py.text d "mode" "chat"
          let mode ← named "mode" mode (StepMode.ofText? mode)
          let status := py.text d "status" "pending"
          let status ← named "status" status (StepStatus.ofText? status)
          let dependsOn ← AcceptanceCheck.converted
            (py.stringList d "depends_on")
          let log ← listField d "verify_log" (.value "not a list")
          let verifyLog ← logEntries log
          let filesTouched ← AcceptanceCheck.converted
            (py.stringList d "files_touched")
          let costUsd ← AcceptanceCheck.converted (py.floatOf d "cost_usd")
          let durationMs ← AcceptanceCheck.converted
            (py.floatOf d "duration_ms")
          let startedAt ← AcceptanceCheck.converted
            (py.floatOf d "started_at")
          .ok {
            id := py.str id
            role := py.text d "role" "developer"
            mode
            status
            dependsOn
            acceptance := draftUnlessGiven criteria successCriteria checks
            task := firstText py d ["task", "description", "prompt"]
            successCriteria
            error := py.text d "error" ""
            output := py.text d "output" ""
            verifyLog
            filesTouched
            executor := py.text d "executor" ""
            model := py.text d "model" ""
            provider := py.text d "provider" ""
            tier := py.text d "tier" ""
            costUsd
            durationMs
            startedAt }
  | _ => .error (.validation ("invalid plan step: " ++ py.repr data))

theorem firstText_eq {py : Builtins} {d : Dict Json} {key s : String}
    {rest : List String} (h : d.get? key = some (.str s))
    (hrest : ∀ other ∈ rest, d.get? other = none) :
    firstText py d (key :: rest) = s := by
  have hempty : firstText py d rest = "" := by
    induction rest with
    | nil => rfl
    | cons other rest ih =>
        rw [firstText, Dict.truthy?, hrest other List.mem_cons_self]
        exact ih fun k hk => hrest k (List.mem_cons_of_mem _ hk)
  rw [firstText, Dict.truthy?, h]
  by_cases hs : s = ""
  · simp [Json.truthy, hs, hempty]
  · simp [Json.truthy, hs, py.str_text]

theorem listField_eq {d : Dict Json} {key : String} {items : List Json}
    {e : PyError} (h : d.get? key = some (.arr items)) :
    listField d key e = .ok items := by
  rw [listField, Dict.truthy?, h]
  cases items <;> simp [Json.truthy]

/-- Reading written checks back is `reloadAcceptance`, up to the text. -/
theorem readChecks_map (py : Builtins) (checks : List AcceptanceCheck) :
    (readChecks py (checks.map fun check => .obj check.toDict)).toOption =
      (reloadAcceptance checks).toOption := by
  induction checks with
  | nil => rfl
  | cons check rest ih =>
      rw [List.map_cons, readChecks, reloadAcceptance,
        AcceptanceCheck.fromDict_toDict, AcceptanceCheck.reload]
      by_cases htype : check.type = ""
      · simp only [if_pos htype]
        rfl
      · simp only [if_neg htype]
        cases hread : readChecks py (rest.map fun c => .obj c.toDict) <;>
          cases hreload : reloadAcceptance rest <;>
          simp_all [Except.toOption, AcceptanceCheck.normal, Bind.bind,
            Except.bind]

theorem get?_alternate (step : PlanStep) {key : String}
    (h : key ∈ ["description", "prompt"] ++
      ["criteria", "acceptance_criteria"]) : step.toDict.get? key = none := by
  apply Dict.get?_eq_none
  have hkeys : step.toDict.keys =
      ["id", "role", "mode", "status", "depends_on", "acceptance", "task",
        "success_criteria", "error", "output", "verify_log", "files_touched",
        "executor", "model", "provider", "tier", "cost_usd", "duration_ms",
        "started_at"] := rfl
  rw [hkeys]
  revert key
  decide

theorem fromDict_toDict (py : Builtins) (criteria : CriteriaCompiler)
    (step : PlanStep) :
    (fromDict py criteria (.obj step.toDict)).toOption =
      (step.reload criteria).toOption := by
  have hid : Dict.truthy? step.toDict "id" =
      if step.id = "" then none else some (.str step.id) := by
    rw [Dict.truthy?]
    by_cases h : step.id = "" <;> simp [toDict, Dict.get?, Json.truthy, h]
  have hmode : py.text step.toDict "mode" "chat" = step.mode.text := by
    have hget : step.toDict.get? "mode" = some (.str step.mode.text) := by
      simp [toDict, Dict.get?]
    rw [Builtins.text_of_get? hget]
    cases step.mode <;> decide
  have hstatus : py.text step.toDict "status" "pending" =
      step.status.text := by
    have hget : step.toDict.get? "status" = some (.str step.status.text) := by
      simp [toDict, Dict.get?]
    rw [Builtins.text_of_get? hget]
    cases step.status <;> decide
  have hrole : py.text step.toDict "role" "developer" =
      orElse step.role "developer" :=
    Builtins.text_of_get? (by simp [toDict, Dict.get?])
  have htask : firstText py step.toDict ["task", "description", "prompt"] =
      step.task :=
    firstText_eq (by simp [toDict, Dict.get?])
      fun key hkey => get?_alternate step (List.mem_append_left _ hkey)
  have hcriteria : firstText py step.toDict
      ["success_criteria", "criteria", "acceptance_criteria"] =
        step.successCriteria :=
    firstText_eq (by simp [toDict, Dict.get?])
      fun key hkey => get?_alternate step
        (List.mem_append_right ["description", "prompt"] hkey)
  have hraw : ∀ e, listField step.toDict "acceptance" e =
      .ok (step.acceptance.map fun check => .obj check.toDict) := fun e =>
    listField_eq (by simp [toDict, Dict.get?])
  have hlog : ∀ e, listField step.toDict "verify_log" e =
      .ok (step.verifyLog.map .obj) := fun e =>
    listField_eq (by simp [toDict, Dict.get?])
  have hdeps : py.stringList step.toDict "depends_on" =
      .ok step.dependsOn :=
    Builtins.stringList_of_get? (by simp [toDict, Dict.get?])
  have hfiles : py.stringList step.toDict "files_touched" =
      .ok step.filesTouched :=
    Builtins.stringList_of_get? (by simp [toDict, Dict.get?])
  have hcost : py.floatOf step.toDict "cost_usd" = .ok step.costUsd :=
    Builtins.floatOf_of_get? (by simp [toDict, Dict.get?])
  have hduration : py.floatOf step.toDict "duration_ms" =
      .ok step.durationMs :=
    Builtins.floatOf_of_get? (by simp [toDict, Dict.get?])
  have hstarted : py.floatOf step.toDict "started_at" =
      .ok step.startedAt :=
    Builtins.floatOf_of_get? (by simp [toDict, Dict.get?])
  have herror : py.text step.toDict "error" "" = step.error :=
    Builtins.text_self (by simp [toDict, Dict.get?])
  have houtput : py.text step.toDict "output" "" = step.output :=
    Builtins.text_self (by simp [toDict, Dict.get?])
  have hexecutor : py.text step.toDict "executor" "" = step.executor :=
    Builtins.text_self (by simp [toDict, Dict.get?])
  have hmodel : py.text step.toDict "model" "" = step.model :=
    Builtins.text_self (by simp [toDict, Dict.get?])
  have hprovider : py.text step.toDict "provider" "" = step.provider :=
    Builtins.text_self (by simp [toDict, Dict.get?])
  have htier : py.text step.toDict "tier" "" = step.tier :=
    Builtins.text_self (by simp [toDict, Dict.get?])
  have hchecks := readChecks_map py step.acceptance
  rw [fromDict, reload]
  by_cases h : step.id = ""
  · simp only [hid, if_pos h]
    rfl
  simp only [hid, if_neg h, hraw, hlog, hmode, hstatus, hrole, htask,
    hcriteria, hdeps, hfiles, hcost, hduration, hstarted, herror, houtput,
    hexecutor, hmodel, hprovider, htier, StepMode.ofText?_text,
    StepStatus.ofText?_text, named, bind, Except.bind,
    AcceptanceCheck.converted, py.str_text, draftUnlessGiven]
  cases hread : readChecks py
      (step.acceptance.map fun check => .obj check.toDict) with
  | error e =>
      rw [hread] at hchecks
      cases hreload : reloadAcceptance step.acceptance with
      | error e' => rfl
      | ok checks => rw [hreload] at hchecks; cases hchecks
  | ok checks =>
      rw [hread] at hchecks
      cases hreload : reloadAcceptance step.acceptance with
      | error e' => rw [hreload] at hchecks; cases hchecks
      | ok checks' =>
          rw [hreload] at hchecks
          cases hchecks
          simp only [logEntries_map]

end PlanStep

namespace Plan

def toDict (plan : Plan) : Dict Json :=
  [("schema_version", .num plan.schemaVersion),
    ("plan_id", .str plan.planId),
    ("task_id", .str plan.taskId),
    ("cwd", .str plan.cwd),
    ("status", .str plan.status.text),
    ("task", .str plan.task),
    ("created_at", .num plan.createdAt),
    ("updated_at", .num plan.updatedAt),
    ("error", .str plan.error),
    ("metadata", .obj plan.metadata),
    ("steps", .arr (plan.steps.map fun step => .obj step.toDict))]

/-- `[PlanStep.from_dict(s) for s in steps_raw]`. -/
def readSteps (py : Builtins) (criteria : CriteriaCompiler) :
    List Json → Except PyError (List PlanStep)
  | [] => .ok []
  | data :: rest => do
      let step ← PlanStep.fromDict py criteria data
      let steps ← readSteps py criteria rest
      .ok (step :: steps)

/-- `int(data.get("schema_version") or SCHEMA_VERSION)`. -/
def readSchemaVersion (py : Builtins) (d : Dict Json) : Except PyError Int :=
  match d.truthy? "schema_version" with
  | none => .ok Voly.schemaVersion
  | some value => AcceptanceCheck.converted (py.int value)

/-- `dict(data.get("metadata") or {})`. -/
def readMetadata (d : Dict Json) : Except PyError (Dict Json) :=
  match d.truthy? "metadata" with
  | none => .ok []
  | some (.obj items) => .ok items
  | some _ => .error (.value "metadata is not a dictionary")

def fromDict (py : Builtins) (criteria : CriteriaCompiler) (data : Json) :
    Except PyError Plan :=
  match data with
  | .obj d =>
      match Dict.truthy? d "plan_id" with
      | none =>
          .error (.validation ("invalid plan: missing plan_id in " ++
            data.typeName))
      | some planId => do
          let raw ← PlanStep.listField d "steps"
            (.validation "plan.steps must be a list")
          let status := py.text d "status" "pending"
          let status ← named "status" status (PlanStatus.ofText? status)
          let schemaVersion ← readSchemaVersion py d
          let steps ← readSteps py criteria raw
          let createdAt ← AcceptanceCheck.converted (py.floatOf d "created_at")
          let updatedAt ← AcceptanceCheck.converted (py.floatOf d "updated_at")
          let metadata ← readMetadata d
          .ok {
            planId := py.str planId
            taskId := py.text d "task_id" ""
            cwd := py.text d "cwd" ""
            status
            schemaVersion
            steps
            task := py.text d "task" ""
            createdAt
            updatedAt
            error := py.text d "error" ""
            metadata }
  | _ =>
      .error (.validation ("invalid plan: missing plan_id in " ++
        data.typeName))

theorem readSteps_map (py : Builtins) (criteria : CriteriaCompiler)
    (steps : List PlanStep) :
    (readSteps py criteria
        (steps.map fun step => .obj step.toDict)).toOption =
      (reloadSteps criteria steps).toOption := by
  induction steps with
  | nil => rfl
  | cons step rest ih =>
      have hstep := PlanStep.fromDict_toDict py criteria step
      rw [List.map_cons, readSteps, reloadSteps]
      cases hread : PlanStep.fromDict py criteria (.obj step.toDict) <;>
        cases hreload : step.reload criteria <;>
        cases hrest : readSteps py criteria
          (rest.map fun s => .obj s.toDict) <;>
        cases hrestReload : reloadSteps criteria rest <;>
        simp_all [Except.toOption, bind, Except.bind]

theorem readSchemaVersion_eq (py : Builtins) (plan : Plan) :
    readSchemaVersion py plan.toDict =
      .ok (if plan.schemaVersion = 0 then Voly.schemaVersion
        else plan.schemaVersion) := by
  rw [readSchemaVersion, Dict.truthy?]
  by_cases h : plan.schemaVersion = 0
  · simp [toDict, Dict.get?, Json.truthy, h]
  · simp [toDict, Dict.get?, Json.truthy, h, py.int_num,
      AcceptanceCheck.converted]

theorem readMetadata_eq (plan : Plan) :
    readMetadata plan.toDict = .ok plan.metadata := by
  rw [readMetadata, Dict.truthy?]
  cases h : plan.metadata <;> simp [toDict, Dict.get?, Json.truthy, h]

theorem fromDict_toDict (py : Builtins) (criteria : CriteriaCompiler)
    (plan : Plan) :
    (fromDict py criteria (.obj plan.toDict)).toOption =
      (plan.reload criteria).toOption := by
  have hid : Dict.truthy? plan.toDict "plan_id" =
      if plan.planId = "" then none else some (.str plan.planId) := by
    rw [Dict.truthy?]
    by_cases h : plan.planId = "" <;> simp [toDict, Dict.get?, Json.truthy, h]
  have hraw : ∀ e, PlanStep.listField plan.toDict "steps" e =
      .ok (plan.steps.map fun step => .obj step.toDict) := fun e =>
    PlanStep.listField_eq (by simp [toDict, Dict.get?])
  have hstatus : py.text plan.toDict "status" "pending" =
      plan.status.text := by
    have hget : plan.toDict.get? "status" = some (.str plan.status.text) := by
      simp [toDict, Dict.get?]
    rw [Builtins.text_of_get? hget]
    cases plan.status <;> decide
  have hcreated : py.floatOf plan.toDict "created_at" = .ok plan.createdAt :=
    Builtins.floatOf_of_get? (by simp [toDict, Dict.get?])
  have hupdated : py.floatOf plan.toDict "updated_at" = .ok plan.updatedAt :=
    Builtins.floatOf_of_get? (by simp [toDict, Dict.get?])
  have htaskId : py.text plan.toDict "task_id" "" = plan.taskId :=
    Builtins.text_self (by simp [toDict, Dict.get?])
  have hcwd : py.text plan.toDict "cwd" "" = plan.cwd :=
    Builtins.text_self (by simp [toDict, Dict.get?])
  have htask : py.text plan.toDict "task" "" = plan.task :=
    Builtins.text_self (by simp [toDict, Dict.get?])
  have herror : py.text plan.toDict "error" "" = plan.error :=
    Builtins.text_self (by simp [toDict, Dict.get?])
  have hsteps := readSteps_map py criteria plan.steps
  rw [fromDict, reload]
  by_cases h : plan.planId = ""
  · simp only [hid, if_pos h]
    rfl
  simp only [hid, if_neg h, hraw, hstatus, hcreated, hupdated, htaskId, hcwd,
    htask, herror, readSchemaVersion_eq, readMetadata_eq,
    PlanStatus.ofText?_text, named, bind, Except.bind,
    AcceptanceCheck.converted, py.str_text]
  cases hread : readSteps py criteria
      (plan.steps.map fun step => .obj step.toDict) with
  | error e =>
      rw [hread] at hsteps
      cases hreload : reloadSteps criteria plan.steps with
      | error e' => rfl
      | ok steps => rw [hreload] at hsteps; cases hsteps
  | ok steps =>
      rw [hread] at hsteps
      cases hreload : reloadSteps criteria plan.steps with
      | error e' => rw [hreload] at hsteps; cases hsteps
      | ok steps' =>
          rw [hreload] at hsteps
          cases hsteps
          rfl

end Plan

end Voly
