/-
The run tracker and the watchdog over files that may hold anything: which
operations raise.
-/
import Mathlib.Algebra.Group.Nat.Defs
import Mathlib.Data.List.Sort
import Mathlib.Data.List.ReduceOption
import Voly.Python.Loops

namespace Voly.Runtime.Tracker

open Python

/-- A Python text: code points, among which a lone half of a surrogate pair may
be. -/
abbrev PyStr := List UInt32

def pyStr (s : String) : PyStr := s.toList.map Char.val

/-- A Python value; no key of a dictionary is there twice. -/
inductive PyValue (F : Type) where
  | none
  | bool (b : Bool)
  | int (n : Int)
  | float (x : F)
  | str (s : PyStr)
  | list (items : List (PyValue F))
  | dict (items : List (PyValue F × PyValue F))
  /-- An object that JSON has no form for. -/
  | other

abbrev PyDict (F : Type) := List (PyValue F × PyValue F)

/-- What is left open: `str()`, zero floats, nesting, staleness. -/
structure Interpreter (F : Type) where
  text : PyValue F → Option PyStr
  isZero : F → Bool
  depth : Nat
  now : F
  isOld : PyValue F → Bool

section Values

variable {F : Type} (py : Interpreter F)

/-- `bool(value)`. -/
def PyValue.truthy : PyValue F → Bool
  | .none => false
  | .bool b => b
  | .int n => n != 0
  | .float x => !py.isZero x
  | .str s => !s.isEmpty
  | .list items => !items.isEmpty
  | .dict items => !items.isEmpty
  | .other => true

def PyValue.isStr (s : PyStr) : PyValue F → Bool
  | .str t => s == t
  | _ => false

/-- `d.get(key)`. -/
def get (d : PyDict F) (key : PyStr) : PyValue F :=
  ((d.find? fun item => item.1.isStr key).map Prod.snd).getD .none

/-- The keys are equal texts; all keys of a file are texts. -/
def sameKey : PyValue F → PyValue F → Bool
  | .str s, .str t => s == t
  | _, _ => false

/-- `{**d, **item}`. -/
def merge (d item : PyDict F) : PyDict F :=
  d.filter (fun old => !item.any fun new => sameKey old.1 new.1) ++ item

/-- A code point that UTF-8 has no bytes for. -/
def isSurrogate (c : UInt32) : Bool := 0xD800 ≤ c && c ≤ 0xDFFF

/-- `int.__repr__` writes 4300 digits at most. -/
def writable (n : Int) : Bool := n.natAbs < 10 ^ 4300

/-- A key that `json.dump` writes. -/
def dumpsKey : PyValue F → Bool
  | .none | .bool _ | .float _ => true
  | .int n => writable n
  | .str s => !s.any isSurrogate
  | .list _ | .dict _ | .other => false

/-- `json.dump` raises nothing, up to this nesting. -/
def dumps : Nat → PyValue F → Bool
  | _, .none | _, .bool _ | _, .float _ => true
  | _, .int n => writable n
  | _, .str s => !s.any isSurrogate
  | _, .other => false
  | 0, .list _ | 0, .dict _ => false
  | depth + 1, .list items => items.all (dumps depth)
  | depth + 1, .dict items => items.all fun item =>
      dumpsKey item.1 && dumps depth item.2

/-- `float - value` raises nothing: a float or an integer that fits one. -/
def subtractable : PyValue F → Bool
  | .bool _ | .float _ => true
  | .int n => n.natAbs < 2 ^ 1024 - 2 ^ 970
  | .none | .str _ | .list _ | .dict _ | .other => false

end Values

/-- The fields of a `RunRecord`. -/
inductive Field where
  | taskId | parentTaskId | task | status | startedAt | heartbeatAt
  | totalRoles | doneRoles | currentRole | roles | error | planId
  | stepStatuses | workflow | lap | maxLaps | activeRole | stopReason
  | latestVerdict | cancelRequested | timeline | workflowMetrics | graphNodes
  | graphEdges
deriving DecidableEq, Repr

namespace Field

def all : List Field :=
  [taskId, parentTaskId, task, status, startedAt, heartbeatAt, totalRoles,
    doneRoles, currentRole, roles, error, planId, stepStatuses, workflow, lap,
    maxLaps, activeRole, stopReason, latestVerdict, cancelRequested, timeline,
    workflowMetrics, graphNodes, graphEdges]

theorem mem_all (f : Field) : f ∈ all := by
  cases f <;> decide

def key : Field → String
  | taskId => "task_id" | parentTaskId => "parent_task_id" | task => "task"
  | status => "status" | startedAt => "started_at"
  | heartbeatAt => "heartbeat_at" | totalRoles => "total_roles"
  | doneRoles => "done_roles" | currentRole => "current_role"
  | roles => "roles" | error => "error" | planId => "plan_id"
  | stepStatuses => "step_statuses" | workflow => "workflow" | lap => "lap"
  | maxLaps => "max_laps" | activeRole => "active_role"
  | stopReason => "stop_reason" | latestVerdict => "latest_verdict"
  | cancelRequested => "cancel_requested" | timeline => "timeline"
  | workflowMetrics => "workflow_metrics" | graphNodes => "graph_nodes"
  | graphEdges => "graph_edges"

/-- The default of a field; the task id has none, and `0.0` dumps as `0`
does. -/
def default {F : Type} : Field → PyValue F
  | startedAt | heartbeatAt | totalRoles | doneRoles | lap | maxLaps => .int 0
  | roles | stepStatuses | timeline | graphNodes | graphEdges => .list []
  | workflowMetrics => .dict []
  | cancelRequested => .bool false
  | status => .str (pyStr "running")
  | taskId | parentTaskId | task | currentRole | error | planId | workflow
  | activeRole | stopReason | latestVerdict => .str []

end Field

/-- A `RunRecord`; its fields hold whatever the file held. -/
abbrev Record (F : Type) := Field → PyValue F

def Record.set {F : Type} (rec : Record F) (f : Field) (value : PyValue F) :
    Record F :=
  fun g => if g = f then value else rec g

def Record.setOpt {F : Type} (rec : Record F) (f : Field) :
    Option (PyValue F) → Record F
  | some value => rec.set f value
  | none => rec

/-- `OSError` or `ValueError`, any other error, or a value. -/
inductive Read (F : Type) where
  | unreadable
  | raises
  | value (v : PyValue F)

/-- What `os.listdir` returns or raises, what reads find, whether writes fail.
-/
structure Disk (F : Type) where
  runsDir : PyStr
  listing : Option (List PyStr)
  read : Nat → PyStr → Read F
  fails : Nat → Bool

/-- A file name that the system can be given. -/
def encodable (path : PyStr) : Bool :=
  path.all fun c => c != 0 && (!isSurrogate c || (0xDC80 ≤ c && c ≤ 0xDCFF))

/-- `os.path.join(directory, name)`. -/
def joinPath (directory name : PyStr) : PyStr :=
  if name.head? = some 47 then name
  else if directory = [] ∨ directory.getLast? = some 47 then directory ++ name
  else directory ++ [47] ++ name

/-- The arguments of the operations that have some. -/
inductive Operation (F : Type) where
  | start (taskId task : PyStr) (roles : List PyStr)
      (planId parentTaskId : PyStr) (graphNodes graphEdges : List (PyDict F))
  | graphUpdate (taskId : PyStr) (node : Option (PyDict F))
      (edges : Option (List (PyDict F)))
  | heartbeat (taskId currentRole : PyStr) (doneRoles : Int)
      (stepStatuses : Option (List (PyDict F)))
  | workflowUpdate (taskId : PyStr)
      (workflow activeRole latestVerdict stopReason : Option PyStr)
      (lap maxLaps : Option Int) (transition metrics : Option (PyDict F))
  | requestCancel (taskId : PyStr)
  | finish (taskId status error : PyStr)
      (stepStatuses : Option (List (PyDict F)))
  | load (taskId : PyStr)
  | list
  | scan
  | reap

section Operations

variable {F : Type} (py : Interpreter F) (disk : Disk F)
  (sort : List (Record F) → Option (List (Record F)))

/-- `f"{task_id}.json"` in the directory. -/
def path (taskId : PyStr) : PyStr :=
  joinPath disk.runsDir (taskId ++ pyStr ".json")

/-- `_write`; none when it raises. -/
def write (n : Nat) (rec : Record F) : Option Unit := do
  guard (encodable disk.runsDir)
  if disk.fails n then return ()
  guard (Field.all.all fun f => dumps py.depth (rec f))
  let taskId ← py.text (rec .taskId)
  guard (encodable (path disk taskId))

/-- `RunRecord(**{k: v for k, v in data.items() if k in known})`. -/
def record (items : PyDict F) : Record F :=
  fun f => ((items.find? fun item => item.1.isStr (pyStr f.key)).map
    Prod.snd).getD f.default

/-- `_load_path`; none when it raises. -/
def loadPath (n : Nat) (file : PyStr) : Option (Option (Record F)) :=
  if encodable file then
    match disk.read n file with
    | .unreadable => some none
    | .raises => none
    | .value (.dict items) =>
        if items.any fun item => item.1.isStr (pyStr "task_id") then
          some (some (record items))
        else none
    | .value _ => none
  else some none

def load (n : Nat) (taskId : PyStr) : Option (Option (Record F)) :=
  loadPath disk n (path disk taskId)

def dicts (items : List (PyDict F)) : PyValue F := .list (items.map .dict)

def startRecord (taskId task : PyStr) (roles : List PyStr)
    (planId parentTaskId : PyStr) (graphNodes graphEdges : List (PyDict F)) :
    Record F
  | .taskId => .str taskId
  | .parentTaskId => .str parentTaskId
  | .task => .str (task.take 500)
  | .startedAt | .heartbeatAt => .float py.now
  | .totalRoles => .int roles.length
  | .currentRole => .str (roles.head?.getD [])
  | .roles => .list (roles.map .str)
  | .planId => .str planId
  | .graphNodes => dicts graphNodes
  | .graphEdges => dicts graphEdges
  | f => f.default

/-- `str(item.get("id") or "")`. -/
def nodeId (item : PyDict F) : Option PyStr :=
  let id := get item (pyStr "id")
  py.text (if id.truthy py then id else .str [])

/-- The dictionaries that a loop meets; none where an item has no `get`. -/
def loopDicts : PyValue F → Option (List (PyDict F))
  | .list items => items.mapM fun
      | .dict d => some d
      | _ => none
  | .str [] | .dict [] => some []
  | _ => none

section

local instance : LawfulBEq PyStr := List.instLawfulBEq

/-- The nodes with the item in place of the one with its id. -/
def upsertNode (item : PyDict F) (id : PyStr) (nodes : List (PyDict F))
    (ids : List PyStr) : List (PyDict F) :=
  let last (key : PyStr) : Option (PyDict F) :=
    ((ids.zip nodes).reverse.find? fun entry => entry.1 = key).map Prod.snd
  let order := if id ∈ ids then ids else ids ++ [id]
  order.filterMap fun key =>
    if key = id then some (merge ((last id).getD []) item) else last key

end

/-- The graph nodes of `graph_update`. -/
def updatedNodes (rec : Record F) (item : PyDict F) : Option (Record F) := do
  let id ← nodeId py item
  if id = [] then return rec
  let nodes ← loopDicts (rec .graphNodes)
  let ids ← nodes.mapM (nodeId py)
  return rec.set .graphNodes (dicts (upsertNode item id nodes ids))

/-- `rec.graph_nodes` where there is a node to update. -/
def putNode (rec : Record F) : Option (PyDict F) → Option (Record F)
  | some item => updatedNodes py rec item
  | none => some rec

/-- An operation on a record that is loaded first. -/
def update (n : Nat) (taskId : PyStr)
    (change : Record F → Option (Option (Record F))) : Option Unit := do
  let some found ← load disk n taskId | return ()
  let some next ← change found | return ()
  write py disk n next

def graphUpdate (node : Option (PyDict F)) (edges : Option (List (PyDict F)))
    (rec : Record F) : Option (Record F) := do
  let next ← putNode py (rec.set .heartbeatAt (.float py.now)) node
  return next.setOpt .graphEdges (edges.map dicts)

def heartbeat (currentRole : PyStr) (doneRoles : Int)
    (stepStatuses : Option (List (PyDict F))) (rec : Record F) : Record F :=
  ((((rec.set .heartbeatAt (.float py.now)).set
    .currentRole (.str currentRole)).set .doneRoles (.int doneRoles)).setOpt
    .stepStatuses (stepStatuses.map dicts))

/-- `rec.timeline.append(dict(transition))`. -/
def appendTransition (rec : Record F) :
    Option (PyDict F) → Option (Record F)
  | some transition =>
      match rec .timeline with
      | .list items =>
          some (rec.set .timeline (.list (items ++ [.dict transition])))
      | _ => none
  | none => some rec

def workflowUpdate (workflow activeRole latestVerdict stopReason : Option PyStr)
    (lap maxLaps : Option Int) (transition metrics : Option (PyDict F))
    (rec : Record F) : Option (Record F) := do
  let next := ((((((((rec.set .heartbeatAt (.float py.now)).setOpt
    .workflow (workflow.map .str)).setOpt .lap (lap.map .int)).setOpt
    .maxLaps (maxLaps.map .int)).setOpt .activeRole
    (activeRole.map .str)).setOpt .currentRole (activeRole.map .str)).setOpt
    .latestVerdict (latestVerdict.map .str)).setOpt
    .stopReason (stopReason.map .str))
  let next ← appendTransition next transition
  return next.setOpt .workflowMetrics (metrics.map .dict)

def isRunning (rec : Record F) : Bool :=
  (rec .status).isStr (pyStr "running")

/-- `request_cancel`; none for a record that does not run a workflow. -/
def requestCancel (rec : Record F) : Option (Record F) :=
  if isRunning rec && (rec .workflow).truthy py then
    some ((rec.set .cancelRequested (.bool true)).set
      .heartbeatAt (.float py.now))
  else none

def finish (status error : PyStr) (stepStatuses : Option (List (PyDict F)))
    (rec : Record F) : Record F :=
  let done := if status = pyStr "completed" then rec .totalRoles
    else rec .doneRoles
  (((((rec.set .status (.str status)).set .heartbeatAt (.float py.now)).set
    .doneRoles done).set .currentRole (.str [])).set
    .error (.str (error.take 500))).setOpt
    .stepStatuses (stepStatuses.map dicts)

/-- The names of the record files, in the order in which they are read. -/
def names : List PyStr :=
  ((disk.listing.getD []).insertionSort (· ≤ ·)).filter fun name =>
    (pyStr ".json").isSuffixOf name

/-- `list`; none when it raises.  `sort` is by `started_at`, or none. -/
def list : Option (List (Record F)) := do
  guard (encodable disk.runsDir)
  let found ← (names disk).zipIdx.mapM fun item =>
    loadPath disk item.2 (joinPath disk.runsDir item.1)
  sort found.reduceOption

/-- `is_stale`; none when it raises. -/
def isStale (rec : Record F) : Option Bool :=
  if isRunning rec then
    if (rec .heartbeatAt).truthy py && !subtractable (rec .heartbeatAt) then
      none
    else some (py.isOld (rec .heartbeatAt))
  else some false

def scan : Option (List (Record F)) := do
  let records ← list disk sort
  let stale ← records.mapM (isStale py)
  return ((records.zip stale).filter Prod.snd).map Prod.fst

/-- The mark that `reap` puts on a record, with the given reads and writes. -/
def mark (item : Record F × Nat) : Option Unit := do
  let taskId ← py.text (item.1 .taskId)
  update py disk item.2 taskId fun rec => some (some
    (finish py (pyStr "stale") (pyStr "watchdog: no heartbeat") none rec))

def reap : Option (List (Record F)) := do
  let reaped ← scan py disk sort
  let _ ← (reaped.zipIdx (names disk).length).mapM (mark py disk)
  return reaped

/-- The operation returns; none when it raises. -/
def run : Operation F → Option Unit
  | .start taskId task roles planId parentTaskId nodes edges =>
      write py disk 0
        (startRecord py taskId task roles planId parentTaskId nodes edges)
  | .graphUpdate taskId node edges =>
      update py disk 0 taskId fun rec =>
        (graphUpdate py node edges rec).map some
  | .heartbeat taskId currentRole doneRoles stepStatuses =>
      update py disk 0 taskId fun rec =>
        some (some (heartbeat py currentRole doneRoles stepStatuses rec))
  | .workflowUpdate taskId workflow activeRole latestVerdict stopReason lap
      maxLaps transition metrics =>
      update py disk 0 taskId fun rec => (workflowUpdate py workflow activeRole
        latestVerdict stopReason lap maxLaps transition metrics rec).map some
  | .requestCancel taskId =>
      update py disk 0 taskId fun rec => some (requestCancel py rec)
  | .finish taskId status error stepStatuses =>
      update py disk 0 taskId fun rec =>
        some (some (finish py status error stepStatuses rec))
  | .load taskId => (load disk 0 taskId).map fun _ => ()
  | .list => (list disk sort).map fun _ => ()
  | .scan => (scan py disk sort).map fun _ => ()
  | .reap => (reap py disk sort).map fun _ => ()

/-- What a read finds; a name that cannot be given is a `ValueError`. -/
def found (n : Nat) (file : PyStr) : Read F :=
  if encodable file then disk.read n file else .unreadable

/-- The file cannot be read or is no JSON, or its record satisfies `p`. -/
def Reads (n : Nat) (file : PyStr) (p : Record F → Prop) : Prop :=
  match found disk n file with
  | .unreadable => True
  | .raises => False
  | .value v => ∃ items, v = .dict items ∧
      (items.any fun item => item.1.isStr (pyStr "task_id")) = true ∧
      p (record items)

/-- A write of the record gets through, or meets an `OSError` first. -/
def Stores (n : Nat) (rec : Record F) : Prop :=
  encodable disk.runsDir = true ∧ (disk.fails n = true ∨
    (∀ f, dumps py.depth (rec f) = true) ∧
      ∃ taskId, py.text (rec .taskId) = some taskId ∧
        encodable (path disk taskId) = true)

/-- The node's id has a text; unless it is empty, so have the ids of the
record's nodes. -/
def Places (rec : Record F) (item : PyDict F) : Prop :=
  ∃ id, nodeId py item = some id ∧ (id ≠ [] →
    (rec .graphNodes = .str [] ∨ rec .graphNodes = .dict [] ∨
      ∃ nodes, rec .graphNodes = dicts nodes ∧
        ∀ node ∈ nodes, ∃ key, nodeId py node = some key))

def recordAt (n : Nat) (file : PyStr) : Option (Record F) :=
  match found disk n file with
  | .value (.dict items) => some (record items)
  | _ => none

/-- The records of the directory, in the order in which they are read. -/
def records : List (Record F) :=
  (names disk).zipIdx.filterMap fun item =>
    recordAt disk item.2 (joinPath disk.runsDir item.1)

/-- Every record file can be read, and the records be sorted. -/
structure Lists : Prop where
  directory : encodable disk.runsDir = true
  files : ∀ item ∈ (names disk).zipIdx,
    Reads disk item.2 (joinPath disk.runsDir item.1) fun _ => True
  sorted : (sort (records disk)).isSome = true

/-- A running record's last heartbeat fits a float, or there is none. -/
def Timed (rec : Record F) : Prop :=
  isRunning rec = true → (rec .heartbeatAt).truthy py = true →
    subtractable (rec .heartbeatAt) = true

def Scans : Prop :=
  Lists disk sort ∧ ∀ sorted ∈ sort (records disk), ∀ rec ∈ sorted,
    Timed py rec

def staleRecords (sorted : List (Record F)) : List (Record F) :=
  sorted.filter fun rec => isRunning rec && py.isOld (rec .heartbeatAt)

/-- Each record's task id has a text, and its file can be read and written. -/
def Marks (stale : List (Record F)) : Prop :=
  ∀ item ∈ stale.zipIdx (names disk).length,
    ∃ taskId, py.text (item.1 .taskId) = some taskId ∧
      Reads disk item.2 (path disk taskId) fun rec =>
        Stores py disk item.2 (finish py (pyStr "stale")
          (pyStr "watchdog: no heartbeat") none rec)

/-- The operation's files, arguments and writes are as it needs them. -/
def Safe : Operation F → Prop
  | .start taskId task roles planId parentTaskId nodes edges =>
      Stores py disk 0
        (startRecord py taskId task roles planId parentTaskId nodes edges)
  | .graphUpdate taskId node edges =>
      Reads disk 0 (path disk taskId) fun rec =>
        (∀ item ∈ node, Places py rec item) ∧
          ∀ next ∈ graphUpdate py node edges rec, Stores py disk 0 next
  | .heartbeat taskId currentRole doneRoles stepStatuses =>
      Reads disk 0 (path disk taskId) fun rec => Stores py disk 0
        (heartbeat py currentRole doneRoles stepStatuses rec)
  | .workflowUpdate taskId workflow activeRole latestVerdict stopReason lap
      maxLaps transition metrics =>
      Reads disk 0 (path disk taskId) fun rec =>
        (transition.isSome = true → ∃ items, rec .timeline = .list items) ∧
          ∀ next ∈ workflowUpdate py workflow activeRole latestVerdict
            stopReason lap maxLaps transition metrics rec,
            Stores py disk 0 next
  | .requestCancel taskId =>
      Reads disk 0 (path disk taskId) fun rec =>
        ∀ next ∈ requestCancel py rec, Stores py disk 0 next
  | .finish taskId status error stepStatuses =>
      Reads disk 0 (path disk taskId) fun rec => Stores py disk 0
        (finish py status error stepStatuses rec)
  | .load taskId => Reads disk 0 (path disk taskId) fun _ => True
  | .list => Lists disk sort
  | .scan => Scans py disk sort
  | .reap => Scans py disk sort ∧ ∀ sorted ∈ sort (records disk),
      Marks py disk (staleRecords py sorted)

variable {py disk sort}

section

variable {b : Bool} {n : Nat} {file : PyStr} {taskId : PyStr}

theorem guard_bind_isSome {A : Type} {next : Unit → Option A} :
    ((guard (b = true) : Option Unit) >>= next).isSome = true ↔
      b = true ∧ (next ()).isSome = true := by
  cases b with
  | true => exact ⟨fun h => ⟨rfl, h⟩, fun h => h.2⟩
  | false => exact ⟨fun h => (nomatch h), fun h => (nomatch h.1)⟩

theorem guard_bind_eq_some {A : Type} {next : Unit → Option A} {a : A} :
    ((guard (b = true) : Option Unit) >>= next) = some a ↔
      b = true ∧ next () = some a := by
  cases b with
  | true => exact ⟨fun h => ⟨rfl, h⟩, fun h => h.2⟩
  | false => exact ⟨fun h => (nomatch h), fun h => (nomatch h.1)⟩

theorem bind_isSome {A B : Type} {x : Option A} {next : A → Option B} :
    (x >>= next).isSome = true ↔ ∃ a, x = some a ∧ (next a).isSome = true := by
  cases x with
  | none => simp
  | some a => simp

theorem write_isSome {rec : Record F} :
    (write py disk n rec).isSome = true ↔ Stores py disk n rec := by
  have hfields : (Field.all.all fun f => dumps py.depth (rec f)) = true ↔
      ∀ f, dumps py.depth (rec f) = true := by
    rw [List.all_eq_true]
    exact ⟨fun h f => h f f.mem_all, fun h f _ => h f⟩
  have hlast {b : Bool} :
      (guard (b = true) : Option Unit).isSome = true ↔ b = true := by
    cases b <;> simp
  unfold write Stores
  rw [guard_bind_isSome]
  refine and_congr_right fun _ => ?_
  cases hfails : disk.fails n with
  | true => exact ⟨fun _ => .inl rfl, fun _ => rfl⟩
  | false =>
      rw [if_neg Bool.false_ne_true]
      refine guard_bind_isSome.trans ?_
      simp only [bind_isSome, hlast, hfields, Bool.false_eq_true, false_or]

/-- A file as `_load_path` takes it. -/
theorem reads_iff {p : Record F → Prop} :
    Reads disk n file p ↔
      ∃ loaded, loadPath disk n file = some loaded ∧ ∀ rec ∈ loaded, p rec := by
  unfold Reads found loadPath
  by_cases hfile : encodable file = true
  · rw [if_pos hfile, if_pos hfile]
    cases disk.read n file with
    | unreadable =>
        exact ⟨fun _ => ⟨none, rfl, fun _ h => (nomatch h)⟩, fun _ => trivial⟩
    | raises => exact ⟨False.elim, fun ⟨_, h, _⟩ => (nomatch h)⟩
    | value v =>
        constructor
        · rintro ⟨items, rfl, hid, hp⟩
          refine ⟨some (record items), if_pos hid, ?_⟩
          rintro _ ⟨⟩
          exact hp
        · rintro ⟨loaded, hloaded, hp⟩
          cases v with
          | dict items =>
              dsimp only at hloaded
              split at hloaded
              · next hid =>
                  cases hloaded
                  exact ⟨items, rfl, hid, hp _ rfl⟩
              · cases hloaded
          | _ => cases hloaded
  · rw [if_neg hfile, if_neg hfile]
    exact ⟨fun _ => ⟨none, rfl, fun _ h => (nomatch h)⟩, fun _ => trivial⟩

theorem Reads.congr {p q : Record F → Prop} (h : ∀ rec, p rec ↔ q rec) :
    Reads disk n file p ↔ Reads disk n file q := by
  rw [reads_iff, reads_iff]
  simp only [h]

theorem update_isSome {change : Record F → Option (Option (Record F))} :
    (update py disk n taskId change).isSome = true ↔
      Reads disk n (path disk taskId) fun rec =>
        ∃ next, change rec = some next ∧
          ∀ kept ∈ next, Stores py disk n kept := by
  rw [reads_iff, update, bind_isSome, load]
  refine exists_congr fun loaded => and_congr_right fun _ => ?_
  cases loaded with
  | none => exact ⟨fun _ _ h => (nomatch h), fun _ => rfl⟩
  | some rec =>
      dsimp only
      rw [bind_isSome]
      constructor
      · rintro ⟨next, hnext, hwrite⟩ _ ⟨⟩
        refine ⟨next, hnext, ?_⟩
        rintro kept ⟨⟩
        exact write_isSome.mp hwrite
      · intro hall
        obtain ⟨next, hnext, hstores⟩ := hall rec rfl
        refine ⟨next, hnext, ?_⟩
        cases next with
        | none => rfl
        | some kept => exact write_isSome.mpr (hstores kept rfl)

theorem update_map_isSome {change : Record F → Record F} :
    (update py disk n taskId fun rec => some (some (change rec))).isSome =
        true ↔
      Reads disk n (path disk taskId) fun rec =>
        Stores py disk n (change rec) := by
  rw [update_isSome]
  refine Reads.congr fun rec => ?_
  constructor
  · rintro ⟨_, ⟨⟩, hstores⟩
    exact hstores _ rfl
  · intro hstores
    refine ⟨_, rfl, ?_⟩
    rintro _ ⟨⟩
    exact hstores

theorem update_try_isSome {change : Record F → Option (Record F)}
    {works : Record F → Prop}
    (h : ∀ rec, (change rec).isSome = true ↔ works rec) :
    (update py disk n taskId fun rec => (change rec).map some).isSome = true ↔
      Reads disk n (path disk taskId) fun rec =>
        works rec ∧ ∀ next ∈ change rec, Stores py disk n next := by
  rw [update_isSome]
  refine Reads.congr fun rec => ?_
  rw [← h]
  cases hchange : change rec with
  | none =>
      exact ⟨fun ⟨_, hnext, _⟩ => (nomatch hnext), fun hright =>
        (nomatch hright.1)⟩
  | some next =>
      constructor
      · rintro ⟨_, ⟨⟩, hstores⟩
        exact ⟨rfl, hstores⟩
      · exact fun hright => ⟨_, rfl, hright.2⟩

end

theorem loopDicts_iff {value : PyValue F} {q : PyDict F → Prop} :
    (∃ nodes, loopDicts value = some nodes ∧ ∀ node ∈ nodes, q node) ↔
      value = .str [] ∨ value = .dict [] ∨
        ∃ nodes, value = dicts nodes ∧ ∀ node ∈ nodes, q node := by
  have hlist {items : List (PyValue F)} {nodes : List (PyDict F)} :
      loopDicts (.list items) = some nodes ↔ items = nodes.map .dict := by
    change items.mapM _ = some nodes ↔ _
    induction items generalizing nodes with
    | nil => cases nodes <;> simp
    | cons item items ih =>
        rw [mapM_cons_some]
        constructor
        · rintro ⟨d, rest, hd, hrest, rfl⟩
          rw [List.map_cons, ← ih.mp hrest]
          cases item with
          | dict d' =>
              cases hd
              rfl
          | none => cases hd
          | bool b => cases hd
          | int n => cases hd
          | float x => cases hd
          | str t => cases hd
          | list others => cases hd
          | other => cases hd
        · intro hitems
          cases nodes with
          | nil => cases hitems
          | cons d rest =>
              obtain ⟨rfl, hrest⟩ := List.cons.inj hitems
              exact ⟨d, rest, rfl, ih.mpr hrest, rfl⟩
  constructor
  · rintro ⟨nodes, hnodes, hall⟩
    cases value with
    | list items =>
        exact .inr (.inr ⟨nodes, congrArg _ (hlist.mp hnodes), hall⟩)
    | str t =>
        cases t with
        | nil => exact .inl rfl
        | cons c t => cases hnodes
    | dict d =>
        cases d with
        | nil => exact .inr (.inl rfl)
        | cons entry d => cases hnodes
    | _ => cases hnodes
  · rintro (rfl | rfl | ⟨nodes, rfl, hall⟩)
    · exact ⟨[], rfl, List.forall_mem_nil _⟩
    · exact ⟨[], rfl, List.forall_mem_nil _⟩
    · exact ⟨nodes, hlist.mpr rfl, hall⟩

theorem updatedNodes_isSome {rec : Record F} {item : PyDict F} :
    (updatedNodes py rec item).isSome = true ↔ Places py rec item := by
  unfold updatedNodes Places
  rw [bind_isSome]
  refine exists_congr fun id => and_congr_right fun _ => ?_
  split
  · next hid => exact ⟨fun _ hne => (hne hid).elim, fun _ => rfl⟩
  · next hid =>
      rw [← loopDicts_iff (q := fun node => ∃ key, nodeId py node = some key)]
      simp only [bind_isSome, hid, not_false_eq_true, true_imp_iff, ne_eq]
      refine exists_congr fun nodes => and_congr_right fun _ => ?_
      have hids := exists_mapM_iff (nodeId py) nodes
      simp only [Option.isSome_iff_exists] at hids
      rw [← hids]
      exact ⟨fun ⟨ids, hsome, _⟩ => ⟨ids, hsome⟩,
        fun ⟨ids, hsome⟩ => ⟨ids, hsome, rfl⟩⟩

theorem graphUpdate_isSome {node : Option (PyDict F)}
    {edges : Option (List (PyDict F))} (rec : Record F) :
    (graphUpdate py node edges rec).isSome = true ↔
      ∀ item ∈ node, Places py rec item := by
  have hplaces (item : PyDict F) :
      Places py (rec.set .heartbeatAt (.float py.now)) item ↔
        Places py rec item := Iff.rfl
  unfold graphUpdate
  rw [bind_isSome]
  cases node with
  | none =>
      exact ⟨fun _ _ h => (nomatch h), fun _ => ⟨_, rfl, rfl⟩⟩
  | some item =>
      constructor
      · rintro ⟨next, hnext, _⟩ _ ⟨⟩
        rw [← hplaces, ← updatedNodes_isSome]
        exact Option.isSome_iff_exists.mpr ⟨next, hnext⟩
      · intro hall
        have hput := hall item rfl
        rw [← hplaces, ← updatedNodes_isSome] at hput
        obtain ⟨next, hnext⟩ := Option.isSome_iff_exists.mp hput
        exact ⟨next, hnext, rfl⟩

theorem appendTransition_isSome {rec : Record F}
    {transition : Option (PyDict F)} :
    (appendTransition rec transition).isSome = true ↔
      (transition.isSome = true → ∃ items, rec .timeline = .list items) := by
  cases transition with
  | none => exact ⟨fun _ h => (nomatch h), fun _ => rfl⟩
  | some item =>
      unfold appendTransition
      dsimp only
      cases htimeline : rec .timeline with
      | list items => exact ⟨fun _ _ => ⟨items, rfl⟩, fun _ => rfl⟩
      | _ => exact ⟨fun h => (nomatch h), fun h => (nomatch h rfl)⟩

theorem workflowUpdate_isSome
    {workflow activeRole latestVerdict stopReason : Option PyStr}
    {lap maxLaps : Option Int} {transition metrics : Option (PyDict F)}
    (rec : Record F) :
    (workflowUpdate py workflow activeRole latestVerdict stopReason lap maxLaps
        transition metrics rec).isSome = true ↔
      (transition.isSome = true → ∃ items, rec .timeline = .list items) := by
  have hopt {rec : Record F} {f : Field} {value : Option (PyValue F)}
      (hf : .timeline ≠ f) : rec.setOpt f value .timeline = rec .timeline := by
    cases value with
    | none => rfl
    | some v => exact if_neg hf
  unfold workflowUpdate
  rw [bind_isSome]
  constructor
  · rintro ⟨next, hnext, _⟩
    have happend := appendTransition_isSome.mp
      (Option.isSome_iff_exists.mpr ⟨next, hnext⟩)
    simpa only [hopt, ne_eq, reduceCtorEq, not_false_eq_true, Record.set,
      if_false] using happend
  · intro htimeline
    refine (Option.isSome_iff_exists.mp (appendTransition_isSome.mpr ?_)).imp
      fun next hnext => ⟨hnext, rfl⟩
    simpa only [hopt, ne_eq, reduceCtorEq, not_false_eq_true, Record.set,
      if_false] using htimeline

theorem loadPath_recordAt {n : Nat} {file : PyStr} {loaded : Option (Record F)}
    (h : loadPath disk n file = some loaded) :
    loaded = recordAt disk n file := by
  unfold loadPath at h
  unfold recordAt found
  split at h
  · next hfile =>
      rw [if_pos hfile]
      split at h
      · next hread =>
          rw [hread]
          exact (Option.some.inj h).symm
      · cases h
      · next items hread =>
          rw [hread]
          split at h
          · exact (Option.some.inj h).symm
          · cases h
      · cases h
  · next hfile =>
      rw [if_neg hfile]
      exact (Option.some.inj h).symm

theorem reduceOption_of_mapM {A : Type} {f : A → Option (Option (Record F))}
    {g : A → Option (Record F)} {items : List A}
    {out : List (Option (Record F))} (hfg : ∀ a o, f a = some o → o = g a)
    (hout : items.mapM f = some out) :
    out.reduceOption = items.filterMap g := by
  induction items generalizing out with
  | nil =>
      cases hout
      rfl
  | cons a items ih =>
      obtain ⟨o, rest, ho, hrest, rfl⟩ := mapM_cons_some.mp hout
      rw [List.filterMap_cons, ← hfg a o ho, ← ih hrest]
      cases o with
      | none => exact List.reduceOption_cons_of_none rest
      | some rec => exact List.reduceOption_cons_of_some rec rest

theorem list_eq_some {sorted : List (Record F)} :
    list disk sort = some sorted ↔
      encodable disk.runsDir = true ∧
        (∀ item ∈ (names disk).zipIdx,
          Reads disk item.2 (joinPath disk.runsDir item.1) fun _ => True) ∧
        sort (records disk) = some sorted := by
  have hreads (item : PyStr × Nat) :
      (Reads disk item.2 (joinPath disk.runsDir item.1) fun _ => True) ↔
        (loadPath disk item.2 (joinPath disk.runsDir item.1)).isSome =
          true := by
    rw [reads_iff, Option.isSome_iff_exists]
    exact exists_congr fun loaded =>
      ⟨fun h => h.1, fun h => ⟨h, fun _ _ => trivial⟩⟩
  simp only [hreads, ← exists_mapM_iff]
  have hlist : list disk sort = some sorted ↔
      encodable disk.runsDir = true ∧ ∃ found,
        ((names disk).zipIdx.mapM fun (item : PyStr × Nat) =>
          loadPath disk item.2 (joinPath disk.runsDir item.1)) = some found ∧
        sort found.reduceOption = some sorted := by
    refine guard_bind_eq_some.trans (and_congr_right fun _ => ?_)
    exact Option.bind_eq_some_iff
  rw [hlist]
  refine and_congr_right fun _ => ?_
  constructor
  · rintro ⟨found, hfound, hsort⟩
    rw [reduceOption_of_mapM (fun _ _ => loadPath_recordAt) hfound] at hsort
    exact ⟨⟨found, hfound⟩, hsort⟩
  · rintro ⟨⟨found, hfound⟩, hsort⟩
    refine ⟨found, hfound, ?_⟩
    rw [reduceOption_of_mapM (fun _ _ => loadPath_recordAt) hfound]
    exact hsort

theorem list_isSome : (list disk sort).isSome = true ↔ Lists disk sort := by
  rw [Option.isSome_iff_exists]
  constructor
  · rintro ⟨sorted, hsorted⟩
    obtain ⟨hdirectory, hfiles, hsort⟩ := list_eq_some.mp hsorted
    exact ⟨hdirectory, hfiles, Option.isSome_iff_exists.mpr ⟨sorted, hsort⟩⟩
  · intro h
    obtain ⟨sorted, hsort⟩ := Option.isSome_iff_exists.mp h.sorted
    exact ⟨sorted, list_eq_some.mpr ⟨h.directory, h.files, hsort⟩⟩

theorem isStale_eq_some {rec : Record F} {stale : Bool} :
    isStale py rec = some stale ↔ Timed py rec ∧
      stale = (isRunning rec && py.isOld (rec .heartbeatAt)) := by
  unfold isStale Timed
  cases isRunning rec with
  | false =>
      exact ⟨fun h => ⟨fun hrunning => (nomatch hrunning),
        (Option.some.inj h).symm⟩, fun h => congrArg some h.2.symm⟩
  | true =>
      rw [if_pos rfl]
      split
      · next hbad =>
          rw [Bool.and_eq_true, Bool.not_eq_true'] at hbad
          refine ⟨fun h => (nomatch h), fun h => ?_⟩
          have hgood := h.1 rfl hbad.1
          rw [hbad.2] at hgood
          cases hgood
      · next hgood =>
          refine ⟨fun h => ⟨fun _ htruthy => ?_, (Option.some.inj h).symm⟩,
            fun h => congrArg some h.2.symm⟩
          cases hsub : subtractable (rec .heartbeatAt) with
          | true => rfl
          | false =>
              exact (hgood (by rw [htruthy, hsub]; rfl)).elim

theorem zip_map_filter {records : List (Record F)}
    {marked : Record F → Bool} :
    ((records.zip (records.map marked)).filter Prod.snd).map Prod.fst =
      records.filter marked := by
  induction records with
  | nil => rfl
  | cons rec records ih =>
      rw [List.map_cons, List.zip_cons_cons, List.filter_cons,
        List.filter_cons]
      cases marked rec with
      | true => exact congrArg _ ih
      | false => exact ih

theorem mapM_isStale {records : List (Record F)} {stale : List Bool} :
    records.mapM (isStale py) = some stale ↔
      (∀ rec ∈ records, Timed py rec) ∧ stale = records.map fun rec =>
        isRunning rec && py.isOld (rec .heartbeatAt) := by
  induction records generalizing stale with
  | nil =>
      exact ⟨fun h => ⟨List.forall_mem_nil _, (Option.some.inj h).symm⟩,
        fun h => congrArg some h.2.symm⟩
  | cons rec records ih =>
      rw [mapM_cons_some, List.forall_mem_cons, List.map_cons]
      constructor
      · rintro ⟨b, rest, hb, hrest, rfl⟩
        obtain ⟨htimed, rfl⟩ := isStale_eq_some.mp hb
        obtain ⟨hall, rfl⟩ := ih.mp hrest
        exact ⟨⟨htimed, hall⟩, rfl⟩
      · rintro ⟨⟨htimed, hall⟩, rfl⟩
        exact ⟨_, _, isStale_eq_some.mpr ⟨htimed, rfl⟩, ih.mpr ⟨hall, rfl⟩, rfl⟩

theorem scan_eq_some {stale : List (Record F)} :
    scan py disk sort = some stale ↔ ∃ sorted, list disk sort = some sorted ∧
      (∀ rec ∈ sorted, Timed py rec) ∧ stale = staleRecords py sorted := by
  unfold scan
  refine Option.bind_eq_some_iff.trans
    (exists_congr fun sorted => and_congr_right fun _ => ?_)
  refine Option.bind_eq_some_iff.trans ?_
  constructor
  · rintro ⟨marks, hmarks, hstale⟩
    obtain ⟨htimed, rfl⟩ := mapM_isStale.mp hmarks
    refine ⟨htimed, (Option.some.inj hstale).symm.trans zip_map_filter⟩
  · rintro ⟨htimed, rfl⟩
    exact ⟨_, mapM_isStale.mpr ⟨htimed, rfl⟩, congrArg some zip_map_filter⟩

theorem scan_iff {p : List (Record F) → Prop} :
    (∃ stale, scan py disk sort = some stale ∧ p stale) ↔
      Scans py disk sort ∧ ∀ sorted ∈ sort (records disk),
        p (staleRecords py sorted) := by
  simp only [scan_eq_some, list_eq_some]
  constructor
  · rintro ⟨_, ⟨sorted, ⟨hdirectory, hfiles, hsort⟩, htimed, rfl⟩, hp⟩
    refine ⟨⟨⟨hdirectory, hfiles, ?_⟩, ?_⟩, ?_⟩
    · rw [hsort]
      rfl
    · intro other hother
      rw [hsort] at hother
      cases hother
      exact htimed
    · intro other hother
      rw [hsort] at hother
      cases hother
      exact hp
  · rintro ⟨⟨hlists, htimed⟩, hp⟩
    obtain ⟨sorted, hsort⟩ := Option.isSome_iff_exists.mp hlists.sorted
    exact ⟨_, ⟨sorted, ⟨hlists.directory, hlists.files, hsort⟩,
      htimed sorted hsort, rfl⟩, hp sorted hsort⟩

theorem mark_isSome {item : Record F × Nat} :
    (mark py disk item).isSome = true ↔
      ∃ taskId, py.text (item.1 .taskId) = some taskId ∧
        Reads disk item.2 (path disk taskId) fun rec =>
          Stores py disk item.2 (finish py (pyStr "stale")
            (pyStr "watchdog: no heartbeat") none rec) := by
  unfold mark
  rw [bind_isSome]
  exact exists_congr fun taskId => and_congr_right fun _ => update_map_isSome

/-- An operation returns iff its files, arguments and writes are as needed. -/
theorem run_isSome_iff (py : Interpreter F) (disk : Disk F)
    (sort : List (Record F) → Option (List (Record F)))
    (operation : Operation F) :
    (run py disk sort operation).isSome = true ↔
      Safe py disk sort operation := by
  cases operation with
  | start taskId task roles planId parentTaskId nodes edges =>
      exact write_isSome
  | graphUpdate taskId node edges => exact update_try_isSome graphUpdate_isSome
  | heartbeat taskId currentRole doneRoles stepStatuses =>
      exact update_map_isSome
  | workflowUpdate taskId workflow activeRole latestVerdict stopReason lap
      maxLaps transition metrics =>
      exact update_try_isSome workflowUpdate_isSome
  | requestCancel taskId =>
      refine update_isSome.trans ?_
      unfold Safe
      refine Reads.congr fun rec => ?_
      constructor
      · rintro ⟨_, ⟨⟩, hstores⟩
        exact hstores
      · exact fun hstores => ⟨_, rfl, hstores⟩
  | finish taskId status error stepStatuses => exact update_map_isSome
  | load taskId =>
      rw [Safe, reads_iff, run, Option.isSome_map, load,
        Option.isSome_iff_exists]
      exact ⟨fun ⟨loaded, h⟩ => ⟨loaded, h, fun _ _ => trivial⟩,
        fun ⟨loaded, h, _⟩ => ⟨loaded, h⟩⟩
  | list =>
      rw [run, Option.isSome_map]
      exact list_isSome
  | scan =>
      rw [run, Option.isSome_map, Option.isSome_iff_exists]
      have hscan : (∃ stale, scan py disk sort = some stale ∧ True) ↔ _ :=
        scan_iff (p := fun _ => True)
      exact ⟨fun ⟨stale, h⟩ => (hscan.mp ⟨stale, h, trivial⟩).1,
        fun h => (hscan.mpr ⟨h, fun _ _ => trivial⟩).imp fun _ h => h.1⟩
  | reap =>
      have hmarks (stale : List (Record F)) : (∃ marks,
          (stale.zipIdx (names disk).length).mapM (mark py disk) = some marks) ↔
            Marks py disk stale := by
        rw [exists_mapM_iff]
        exact forall₂_congr fun _ _ => mark_isSome
      rw [run, Option.isSome_map, reap, bind_isSome]
      refine Iff.trans (exists_congr fun stale => and_congr_right fun _ => ?_)
        (scan_iff (p := Marks py disk))
      rw [bind_isSome, ← hmarks]
      exact ⟨fun ⟨marks, h, _⟩ => ⟨marks, h⟩, fun ⟨marks, h⟩ => ⟨marks, h, rfl⟩⟩

end Operations

namespace TrackerWitness

def py : Interpreter Unit where
  text
    | .str s => some s
    | _ => none
  isZero := fun _ => true
  depth := 100
  now := ()
  isOld := fun _ => false

def disk (content : Read Unit) : Disk Unit where
  runsDir := pyStr ".voly/runs"
  listing := some [pyStr "t1.json"]
  read := fun _ _ => content
  fails := fun _ => false

def beat : Operation Unit := .heartbeat (pyStr "t1") (pyStr "tester") 1 none

def emptyList : Disk Unit := disk (.value (.list []))

/-- No operation that reads the file gets through. -/
theorem empty_list_raises :
    run py emptyList some beat = none ∧
      run py emptyList some (.load (pyStr "t1")) = none ∧
      run py emptyList some .list = none ∧
      run py emptyList some .reap = none := by
  refine ⟨?_, ?_, ?_, ?_⟩
  all_goals decide +kernel

end TrackerWitness

end Voly.Runtime.Tracker
