/-
Hook contracts: events, manifests and results, and which manifest data is
accepted.
-/
import Voly.Python.Number

namespace Voly

open Python

inductive HookEventType where
  | runStarted
  | taskObserved
  | filesChanged
  | beforeVerify
  | afterVerify
  | budgetThreshold
  | runFinished
deriving DecidableEq

namespace HookEventType

def value : HookEventType → String
  | runStarted => "run_started"
  | taskObserved => "task_observed"
  | filesChanged => "files_changed"
  | beforeVerify => "before_verify"
  | afterVerify => "after_verify"
  | budgetThreshold => "budget_threshold"
  | runFinished => "run_finished"

def all : List HookEventType :=
  [runStarted, taskObserved, filesChanged, beforeVerify, afterVerify,
    budgetThreshold, runFinished]

theorem value_injective : Function.Injective value := by
  intro a b h
  cases a <;> cases b <;> first | rfl | exact absurd h (by decide)

end HookEventType

inductive FailPolicy where
  | failOpen
  | failClosed
deriving DecidableEq

structure HookEvent where
  eventType : HookEventType
  runId : String
  payload : Dict Json := []
  eventId : String

/-- `approved_at` is whatever the data has there. -/
structure HookManifest where
  hookId : String
  handler : String
  events : List HookEventType
  permissions : List Json
  timeoutSeconds : PyFloat
  idempotency : String
  failPolicy : FailPolicy
  enabled : Bool := false
  imported : Bool := false
  approvedAt : Option Json := none
  schemaVersion : Int := 1

inductive HookStatus where
  | completed
  | failed
  | timeout
  | blocked
  | duplicate
deriving DecidableEq

structure HookResult where
  hookId : String
  eventId : String
  status : HookStatus
  proceed : Bool
  error : String := ""
  idempotencyKey : String

/-- A `ValueError` with its message, or a conversion that raises. -/
inductive HookError where
  | value (message : String)
  | conversion
  | key (hookId : String)

/-- `timeout <= 0 or timeout > 300`; no comparison holds of a NaN. -/
def outOfRange : PyFloat → Bool
  | .finite value => value ≤ 0 || 300 < value
  | .infinite _ => true
  | .nan => false

/-- The checks of the timeout and the idempotency strategy. -/
def checkContract (timeout : PyFloat) (idempotency : String) :
    Except HookError String := do
  if outOfRange timeout then
    throw (.value "hook timeout_seconds must be within (0, 300]")
  let idempotency := strip idempotency
  if idempotency = "" then
    throw (.value "hook idempotency strategy is required")
  return idempotency

def orConversion {A : Type} : Option A → Except HookError A
  | some a => .ok a
  | none => .error .conversion

def requiredFields : List String :=
  ["hook_id", "handler", "events", "permissions", "timeout_seconds",
    "idempotency", "fail_policy"]

def readEventType : Json → Option HookEventType
  | .str text => HookEventType.all.find? fun item => item.value = text
  | _ => none

def readFailPolicy : Json → Option FailPolicy
  | .str text =>
      if text = "fail_open" then some .failOpen
      else if text = "fail_closed" then some .failClosed
      else none
  | _ => none

/-- `int(value)` of the value of a field. -/
def readVersion : Option Json → Option Int
  | none => some 1
  | some (.num value) => some (if value < 0 then ⌈value⌉ else ⌊value⌋)
  | some (.bool value) => some (if value then 1 else 0)
  | some (.str text) => readInt (strip text).toList
  | some _ => none

/-- `HookManifest.from_dict`, where `str` is Python's `str` of a value. -/
def HookManifest.fromDict (str : Json → String) (data : Dict Json)
    (imported : Bool) : Except HookError HookManifest := do
  let missing := sorted (requiredFields.filter fun field =>
    (data.get? field).isNone)
  if missing ≠ [] then
    throw (.value ("hook manifest missing required fields: " ++
      quotedList missing))
  let field (name : String) : Json := (data.get? name).getD .null
  let timeout ← orConversion (field "timeout_seconds").toFloat
  let idempotency ← checkContract timeout (str (field "idempotency"))
  let items ← orConversion (field "events").items
  let events ← orConversion (items.mapM readEventType)
  let permissions ← orConversion (field "permissions").items
  let failPolicy ← orConversion (readFailPolicy (field "fail_policy"))
  let schemaVersion ← orConversion (readVersion (data.get? "schema_version"))
  return {
    hookId := str (field "hook_id")
    handler := str (field "handler")
    events, permissions, timeoutSeconds := timeout, idempotency, failPolicy
    enabled := !imported && ((data.get? "enabled").any Json.truthy)
    imported := imported || ((data.get? "imported").any Json.truthy)
    approvedAt := data.get? "approved_at"
    schemaVersion }

/-- A saved manifest as `from_dict` reads its `to_dict` back: it is checked
again. -/
def HookManifest.reload (manifest : HookManifest) :
    Except HookError HookManifest := do
  let idempotency ←
    checkContract manifest.timeoutSeconds manifest.idempotency
  return { manifest with idempotency }

theorem checkContract_ok {timeout : PyFloat} {text idempotency : String}
    (h : checkContract timeout text = .ok idempotency) :
    idempotency = strip text ∧ outOfRange timeout = false ∧
      idempotency ≠ "" := by
  unfold checkContract at h
  cases hrange : outOfRange timeout with
  | true => simp [hrange] at h; cases h
  | false =>
      simp only [hrange] at h
      by_cases hblank : strip text = ""
      · simp [hblank] at h; cases h
      · simp only [hblank] at h
        cases h
        exact ⟨rfl, rfl, hblank⟩

theorem HookManifest.reload_eq {manifest : HookManifest}
    (hrange : outOfRange manifest.timeoutSeconds = false)
    (hstrip : strip manifest.idempotency = manifest.idempotency)
    (hblank : manifest.idempotency ≠ "") :
    manifest.reload = .ok manifest := by
  unfold HookManifest.reload checkContract
  simp only [hrange, hstrip, hblank]
  rfl

end Voly
