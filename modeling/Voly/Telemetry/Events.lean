/-
Task events: what is written to a file for one, and reading the files of a
directory.
-/
import Voly.Python.Fields
import Voly.Records.Keyed

namespace Voly.Telemetry

open Python

def zeroText : List Char := ['0', '.', '0']

theorem zeroText_shape : (isJsonNumber zeroText && !zeroText.isEmpty &&
    zeroText.all atomic) = true := by
  decide

def zeroFloat : JsonNumber := ⟨zeroText, zeroText_shape⟩

structure TokenMetrics where
  input : Int := 0
  output : Int := 0
  savedRtk : Int := 0
  savedHeadroom : Int := 0
deriving DecidableEq

structure GatewayMetrics where
  cacheHit : Bool := false
  fallbackUsed : Bool := false
  fallbackModel : String := ""
  fallbackProvider : String := ""
  fallbackReason : String := ""
  dlpBlocked : Bool := false
deriving DecidableEq

def taskEventSchemaVersion : Int := 4

structure TaskEvent where
  taskId : String
  agent : String
  status : String
  schemaVersion : Int := taskEventSchemaVersion
  correlationId : Option String := none
  tokens : TokenMetrics := {}
  gateway : GatewayMetrics := {}
  skillIds : List String := []
  memoryHits : Int := 0
  workflow : Option String := none
  routingScore : JsonNumber := zeroFloat
  costUsd : JsonNumber := zeroFloat
  durationMs : JsonNumber := zeroFloat
  model : String := ""
  provider : String := ""
  executor : String := ""
  taskType : Option String := none
  automationScore : JsonNumber := zeroFloat
  manualStepsRemoved : Int := 0
  retryCount : Int := 0
  retryCostUsd : JsonNumber := zeroFloat
  error : Option String := none
  errorClass : Option String := none
  dspyEnabled : Bool := false
  dspyUsed : Bool := false
  dspyMode : Option String := none
  dspyProgramId : Option String := none
  dspyProgramVersion : Option Int := none
  dspyProgramTag : Option String := none
  dspyOptimizer : Option String := none
  dspyDataset : Option String := none
  dspyCompileId : Option String := none
  dspyScore : Option JsonNumber := none
  dspyShadowDelta : Option JsonNumber := none
  taskPrompt : Option String := none
  result : Option String := none
  stageLog : List Doc := []
  report : Option Doc := none
  artifacts : List Doc := []
  chainTimelog : List Doc := []
  a2aDispatched : Bool := false
  a2aSubtaskCount : Int := 0
  a2aAgentsUsed : List String := []
  a2aAssignments : List Doc := []
  signal : Option Doc := none
  businessPlan : Option Doc := none

def TokenMetrics.toDoc (tokens : TokenMetrics) : Doc := .dict [
  ("input", intDoc tokens.input),
  ("output", intDoc tokens.output),
  ("saved_rtk", intDoc tokens.savedRtk),
  ("saved_headroom", intDoc tokens.savedHeadroom)]

def GatewayMetrics.toDoc (gateway : GatewayMetrics) : Doc := .dict [
  ("cache_hit", boolDoc gateway.cacheHit),
  ("fallback_used", boolDoc gateway.fallbackUsed),
  ("fallback_model", .str gateway.fallbackModel),
  ("fallback_provider", .str gateway.fallbackProvider),
  ("fallback_reason", .str gateway.fallbackReason),
  ("dlp_blocked", boolDoc gateway.dlpBlocked)]

def textOrNull : Option String → Doc := optionDoc Doc.str

def TaskEvent.toDict (event : TaskEvent) : Doc := .dict [
  ("task_id", .str event.taskId),
  ("agent", .str event.agent),
  ("status", .str event.status),
  ("schema_version", intDoc event.schemaVersion),
  ("correlation_id", textOrNull event.correlationId),
  ("tokens", event.tokens.toDoc),
  ("gateway", event.gateway.toDoc),
  ("skill_ids", stringsDoc event.skillIds),
  ("memory_hits", intDoc event.memoryHits),
  ("workflow", textOrNull event.workflow),
  ("routing_score", event.routingScore.toDoc),
  ("cost_usd", event.costUsd.toDoc),
  ("duration_ms", event.durationMs.toDoc),
  ("model", .str event.model),
  ("provider", .str event.provider),
  ("executor", .str event.executor),
  ("task_type", textOrNull event.taskType),
  ("automation_score", event.automationScore.toDoc),
  ("manual_steps_removed", intDoc event.manualStepsRemoved),
  ("retry_count", intDoc event.retryCount),
  ("retry_cost_usd", event.retryCostUsd.toDoc),
  ("error", textOrNull event.error),
  ("error_class", textOrNull event.errorClass),
  ("dspy_enabled", boolDoc event.dspyEnabled),
  ("dspy_used", boolDoc event.dspyUsed),
  ("dspy_mode", textOrNull event.dspyMode),
  ("dspy_program_id", textOrNull event.dspyProgramId),
  ("dspy_program_version", optionDoc intDoc event.dspyProgramVersion),
  ("dspy_program_tag", textOrNull event.dspyProgramTag),
  ("dspy_optimizer", textOrNull event.dspyOptimizer),
  ("dspy_dataset", textOrNull event.dspyDataset),
  ("dspy_compile_id", textOrNull event.dspyCompileId),
  ("dspy_score", optionDoc JsonNumber.toDoc event.dspyScore),
  ("dspy_shadow_delta", optionDoc JsonNumber.toDoc event.dspyShadowDelta),
  ("task_prompt", textOrNull event.taskPrompt),
  ("result", textOrNull event.result),
  ("stage_log", .list event.stageLog),
  ("report", optionDoc id event.report),
  ("artifacts", .list event.artifacts),
  ("chain_timelog", .list event.chainTimelog),
  ("a2a_dispatched", boolDoc event.a2aDispatched),
  ("a2a_subtask_count", intDoc event.a2aSubtaskCount),
  ("a2a_agents_used", stringsDoc event.a2aAgentsUsed),
  ("a2a_assignments", .list event.a2aAssignments),
  ("signal", optionDoc id event.signal),
  ("business_plan", optionDoc id event.businessPlan)]

def TaskEvent.toJson (event : TaskEvent) : List Char :=
  event.toDict.write true

section Values

variable (data : Doc) (key : String)

/-- `int(data.get(key) or default)`. -/
def intOr (default : Int) : Option Int :=
  match truthyField data key with
  | some value => value.int?
  | none => some default

/-- `float(data.get(key) or 0.0)`. -/
def floatOrZero : Option JsonNumber :=
  match truthyField data key with
  | some value => value.num?
  | none => some zeroFloat

/-- `data.get(key)`. -/
def textOrNone : Option (Option String) :=
  defaulted data key (optional? Doc.str?) none

/-- `data.get(key) or data.get(legacy)`. -/
def textOrLegacy (legacy : String) : Option (Option String) :=
  match truthyField data key with
  | some value => value.str?.map some
  | none => textOrNone data legacy

/-- `float(data[key])` where it is not `None`. -/
def floatOrNone : Option (Option JsonNumber) :=
  defaulted data key (optional? Doc.num?) none

/-- `str(value)` as far as it can be digits. -/
def digitsText : Doc → List Char
  | .atom x => x.text
  | .str s => s.toList
  | _ => []

/-- `int(value) if str(value).isdigit() else None`. -/
def digitsOrNone : Option Int :=
  let text := ((data.field? key).map digitsText).getD []
  if text ≠ [] ∧ text.all Char.isDigit then
    some (Nat.ofDigitChars 10 text 0)
  else none

/-- `list(data.get(key) or [])`. -/
def listOrEmpty : Option (List Doc) :=
  match truthyField data key with
  | some (.list items) => some items
  | some _ => none
  | none => some []

end Values

/-- `TokenMetrics(**tok) if tok else TokenMetrics()`. -/
def TokenMetrics.fromDoc (tok : Doc) : Option TokenMetrics :=
  if truthy tok then
    if knownKeys tok ["input", "output", "saved_rtk", "saved_headroom"]
    then do
      let input ← defaulted tok "input" Doc.int? 0
      let output ← defaulted tok "output" Doc.int? 0
      let savedRtk ← defaulted tok "saved_rtk" Doc.int? 0
      let savedHeadroom ← defaulted tok "saved_headroom" Doc.int? 0
      some { input, output, savedRtk, savedHeadroom }
    else none
  else some {}

/-- `GatewayMetrics(**gw) if gw else GatewayMetrics()`. -/
def GatewayMetrics.fromDoc (gw : Doc) : Option GatewayMetrics :=
  if truthy gw then
    if knownKeys gw ["cache_hit", "fallback_used", "fallback_model",
        "fallback_provider", "fallback_reason", "dlp_blocked"] then do
      let cacheHit ← defaulted gw "cache_hit" Doc.bool? false
      let fallbackUsed ← defaulted gw "fallback_used" Doc.bool? false
      let fallbackModel ← defaulted gw "fallback_model" Doc.str? ""
      let fallbackProvider ← defaulted gw "fallback_provider" Doc.str? ""
      let fallbackReason ← defaulted gw "fallback_reason" Doc.str? ""
      let dlpBlocked ← defaulted gw "dlp_blocked" Doc.bool? false
      some { cacheHit, fallbackUsed, fallbackModel, fallbackProvider,
             fallbackReason, dlpBlocked }
    else none
  else some {}

/-- The event that `load_events` reads, unless a conversion raises. -/
def TaskEvent.fromDoc (data : Doc) : Option TaskEvent := do
  let taskId ← required data "task_id" Doc.str?
  let agent ← defaulted data "agent" Doc.str? ""
  let status ← defaulted data "status" Doc.str? ""
  let schemaVersion ← intOr data "schema_version" 1
  let correlationId ← textOrNone data "correlation_id"
  let tokens ← defaulted data "tokens" TokenMetrics.fromDoc {}
  let gateway ← defaulted data "gateway" GatewayMetrics.fromDoc {}
  let skillIds ← defaulted data "skill_ids" Doc.strings? []
  let workflow ← textOrNone data "workflow"
  let routingScore ← defaulted data "routing_score" Doc.num? zeroFloat
  let costUsd ← defaulted data "cost_usd" Doc.num? zeroFloat
  let durationMs ← defaulted data "duration_ms" Doc.num? zeroFloat
  let model ← defaulted data "model" Doc.str? ""
  let provider ← defaulted data "provider" Doc.str? ""
  let executor ← defaulted data "executor" Doc.str? ""
  let taskType ← textOrNone data "task_type"
  let automationScore ← floatOrZero data "automation_score"
  let manualStepsRemoved ← intOr data "manual_steps_removed" 0
  let retryCount ← intOr data "retry_count" 0
  let retryCostUsd ← floatOrZero data "retry_cost_usd"
  let error ← textOrNone data "error"
  let errorClass ← textOrNone data "error_class"
  let dspyEnabled ← defaulted data "dspy_enabled"
    (fun value => some (truthy value)) false
  let dspyMode ← textOrNone data "dspy_mode"
  let dspyProgramId ← textOrLegacy data "dspy_program_id" "dspy_program"
  let dspyProgramTag ← textOrNone data "dspy_program_tag"
  let dspyOptimizer ← textOrNone data "dspy_optimizer"
  let dspyDataset ← textOrNone data "dspy_dataset"
  let dspyCompileId ←
    textOrLegacy data "dspy_compile_id" "dspy_compiled_version"
  let dspyScore ← floatOrNone data "dspy_score"
  let dspyShadowDelta ← floatOrNone data "dspy_shadow_delta"
  let artifacts ← listOrEmpty data "artifacts"
  some {
    taskId, agent, status, schemaVersion, correlationId, tokens, gateway,
    skillIds, workflow, routingScore, costUsd, durationMs, model, provider,
    executor, taskType, automationScore, manualStepsRemoved, retryCount,
    retryCostUsd, error, errorClass, dspyEnabled, dspyMode, dspyProgramId,
    dspyProgramVersion := digitsOrNone data "dspy_program_version"
    dspyProgramTag, dspyOptimizer, dspyDataset, dspyCompileId, dspyScore,
    dspyShadowDelta, artifacts }

structure EventFile where
  name : String
  text : List Char

def TaskEvent.file (event : TaskEvent) : EventFile where
  name := event.taskId ++ ".json"
  text := event.toJson

/-- A name that is a file of the directory itself. -/
def isPlainName (name : String) : Bool :=
  name.toList.all fun c => c != '/' && c.toNat != 0

/-- `emit_event` without remote analytics, for a name of the directory. -/
def emitEvent (files : List EventFile) (event : TaskEvent) : List EventFile :=
  if isPlainName event.taskId then Keyed.put EventFile.name event.file files
  else files

/-- Whether `glob("*.json")` lists the file. -/
def EventFile.isJson (file : EventFile) : Bool :=
  ".json".toList.isSuffixOf file.name.toList

def loadNamed (files : List EventFile) : List (String × TaskEvent) :=
  ((files.filter EventFile.isJson).mergeSort
    fun a b => decide (a.name ≤ b.name)).filterMap fun file =>
      (loads file.text >>= TaskEvent.fromDoc).map fun event =>
        (file.name, event)

end Voly.Telemetry
