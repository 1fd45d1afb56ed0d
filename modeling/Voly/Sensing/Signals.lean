/-
The store of signals: two files are replaced for every new one, its own and the
index of keys.
-/
import Voly.Python.Number
import Voly.Records.Keyed

namespace Voly

open Python

inductive SensingError where
  | validation (message : String)
  | type (message : String)
  | conversion
  | key (name : String)
  deriving DecidableEq

/-- `not signal_id or any(mark in signal_id for mark in ("/", "\\"))`. -/
def invalidSignalId (signalId : String) : Bool :=
  signalId = "" || signalId.toList.any fun c => c == '/' || c.toNat == 92

/-- A signal that `__post_init__` accepts. -/
structure Signal where
  signalId : String
  source : String
  sourceRef : String
  capturedAt : String
  dedupKey : String
  payload : Dict Json
  confidence : Rat
  schemaVersion : Int := 1
  named : invalidSignalId signalId = false
  sourced : source ≠ ""
  keyed : dedupKey ≠ ""
  low : 0 ≤ confidence
  high : confidence ≤ 1

namespace Signal

/-- `Signal(...)`: the checks of `__post_init__` in their order. -/
def create (signalId source sourceRef capturedAt dedupKey : String)
    (payload : Dict Json) (confidence : PyFloat) (schemaVersion : Int) :
    Except SensingError Signal :=
  if hnamed : invalidSignalId signalId = true then
    .error (.validation ("invalid signal_id: " ++ quoted signalId))
  else if hsource : source = "" then
    .error (.validation "signal source is required")
  else if hkey : dedupKey = "" then
    .error (.validation "signal dedup_key is required")
  else
    match confidence with
    | .finite value =>
        if h : 0 ≤ value ∧ value ≤ 1 then
          .ok ⟨signalId, source, sourceRef, capturedAt, dedupKey, payload,
            value, schemaVersion, Bool.eq_false_iff.mpr hnamed, hsource, hkey,
            h.1, h.2⟩
        else .error (.validation "signal confidence must be between 0 and 1")
    | _ => .error (.validation "signal confidence must be between 0 and 1")

def toDict (signal : Signal) : Dict Json :=
  [("signal_id", .str signal.signalId), ("source", .str signal.source),
    ("source_ref", .str signal.sourceRef),
    ("captured_at", .str signal.capturedAt),
    ("dedup_key", .str signal.dedupKey), ("payload", .obj signal.payload),
    ("confidence", .num signal.confidence),
    ("schema_version", .num signal.schemaVersion)]

end Signal

section Reading

variable (str : Json → String)

/-- `str(value)`, where `str` is for values that are no strings. -/
def textOf : Json → String
  | .str text => text
  | value => str value

/-- `data[key]`. -/
def requiredField (data : Dict Json) (name : String) :
    Except SensingError Json :=
  match data.get? name with
  | some value => .ok value
  | none => .error (.key name)

/-- `data.get(key) or default`. -/
def present (data : Dict Json) (name : String) (default : Json) : Json :=
  match data.get? name with
  | some value => if value.truthy then value else default
  | none => default

/-- One item of what `dict(value)` is given. -/
def pairOf : Json → Except SensingError (String × Json)
  | .arr [.str name, value] => .ok (name, value)
  | _ => .error .conversion

/-- `dict(value)`. -/
def dictOf : Json → Except SensingError (Dict Json)
  | .obj fields => .ok fields
  | .arr items => do
      let pairs ← items.mapM pairOf
      return pairs.foldl (fun dict pair => dict.set pair.1 pair.2) []
  | _ => .error .conversion

def converted {A : Type} : Option A → Except SensingError A
  | some a => .ok a
  | none => .error .conversion

def Signal.fromDict (data : Dict Json) : Except SensingError Signal := do
  let signalId ← requiredField data "signal_id"
  let source ← requiredField data "source"
  let sourceRef := present data "source_ref" (.str "")
  let capturedAt ← requiredField data "captured_at"
  let dedupKey ← requiredField data "dedup_key"
  let payload ← dictOf (present data "payload" (.obj []))
  let confidence ← converted
    ((data.get? "confidence").getD (.num 0)).toFloat
  let schemaVersion ← converted (present data "schema_version" (.num 1)).toInt
  Signal.create (textOf str signalId) (textOf str source)
    (textOf str sourceRef) (textOf str capturedAt) (textOf str dedupKey)
    payload confidence schemaVersion

end Reading

/-- The file `<day>/<stem>.json` of the store. -/
structure SignalPath where
  day : String
  stem : String
  deriving DecidableEq

def SignalPath.relative (path : SignalPath) : String :=
  path.day ++ "/" ++ path.stem ++ ".json"

structure SignalFile where
  path : SignalPath
  data : Json

/-- The files of the days, and the index once it is there. -/
structure SignalDisk where
  files : List SignalFile := []
  index : Option (Dict String) := none

/-- One replacement by `_atomic_json`. -/
inductive Replacement where
  | signal (path : SignalPath) (signal : Signal)
  | options (path : SignalPath) (signalId : String) (options : List Json)
  | index (entries : Dict String)

def optionsArtifact (signalId : String) (options : List Json) : Dict Json :=
  [("schema_version", .num 1), ("signal_id", .str signalId),
    ("options", .arr options)]

namespace SignalDisk

variable (disk : SignalDisk)

def replace : Replacement → SignalDisk
  | .signal path signal => { disk with
      files := Keyed.put SignalFile.path ⟨path, .obj signal.toDict⟩
        disk.files }
  | .options path signalId options => { disk with
      files := Keyed.put SignalFile.path
        ⟨path, .obj (optionsArtifact signalId options)⟩ disk.files }
  | .index entries => { disk with index := some entries }

def perform (replacements : List Replacement) : SignalDisk :=
  replacements.foldl replace disk

@[simp] theorem perform_nil : disk.perform [] = disk := rfl

@[simp] theorem perform_cons (first : Replacement)
    (rest : List Replacement) :
    disk.perform (first :: rest) = (disk.replace first).perform rest := rfl

def exists? (path : SignalPath) : Bool :=
  disk.files.any fun file => file.path = path

def loadIndex : Dict String := disk.index.getD []

end SignalDisk

namespace SignalStore

def readFile (str : Json → String) (file : SignalFile) : Option Signal :=
  match file.data with
  | .obj data => (Signal.fromDict str data).toOption
  | _ => none

/-- `sorted(..., key=captured_at, reverse=True)`. -/
def list (str : Json → String) (disk : SignalDisk) : List Signal :=
  (disk.files.filterMap (readFile str)).mergeSort fun a b =>
    b.capturedAt ≤ a.capturedAt

/-- `raw.replace("Z", "+00:00")`. -/
def withOffset (raw : String) : String :=
  String.ofList (raw.toList.flatMap fun c =>
    if c = 'Z' then "+00:00".toList else [c])

section Calls

variable (utcDay : String → Option String)

/-- The UTC day of a signal; `utcDay` reads a timestamp as ISO 8601. -/
def dateFor (signal : Signal) : Except SensingError String :=
  match utcDay (withOffset (strip signal.capturedAt)) with
  | some day => .ok day
  | none => .error (.validation
      ("invalid captured_at: " ++ quoted signal.capturedAt))

def path (signal : Signal) : Except SensingError SignalPath :=
  (dateFor utcDay signal).map fun day => ⟨day, signal.signalId⟩

def optionsPath (signal : Signal) : Except SensingError SignalPath :=
  (dateFor utcDay signal).map fun day => ⟨day, signal.signalId ++ ".options"⟩

/-- Whether the signal is new, and the replacements of the call. -/
def save (disk : SignalDisk) (signal : Signal) :
    Except SensingError Bool × List Replacement :=
  let index := disk.loadIndex
  if (index.get? signal.dedupKey).isSome then (.ok false, [])
  else
    match path utcDay signal with
    | .error error => (.error error, [])
    | .ok target =>
        if disk.exists? target then
          (.error (.validation
            ("duplicate signal_id: " ++ quoted signal.signalId)), [])
        else
          (.ok true, [.signal target signal,
            .index (index.set signal.dedupKey target.relative)])

/-- The signals that were stored, and the replacements of the call. -/
def saveMany (disk : SignalDisk) :
    List Signal → Except SensingError (List Signal) × List Replacement
  | [] => (.ok [], [])
  | signal :: rest =>
      match save utcDay disk signal with
      | (.error error, replacements) => (.error error, replacements)
      | (.ok isNew, replacements) =>
          let later := saveMany (disk.perform replacements) rest
          (later.1.map fun stored => if isNew then signal :: stored else stored,
            replacements ++ later.2)

/-- An option without a `to_dict` is `none`. -/
def saveOptions (signal : Signal) (options : List (Option Json)) :
    Except SensingError SignalPath × List Replacement :=
  match options.mapM id with
  | none => (.error (.type "options must provide to_dict()"), [])
  | some serialized =>
      match optionsPath utcDay signal with
      | .error error => (.error error, [])
      | .ok target => (.ok target,
          [.options target signal.signalId serialized])

end Calls

end SignalStore

end Voly
