/-
The registry of hooks and the adapter that dispatches an event to them.
-/
import Voly.Hooks.Schema

namespace Voly

open Python

def handlerPermissions : Dict (List String) :=
  [("observe", ["observe"]),
    ("scoped_tests", ["execute_tests"]),
    ("secret_scan", ["read_project", "scan_secrets"]),
    ("docs_check", ["read_project", "read_docs"]),
    ("budget_notify", ["notify_budget"])]

/-- The manifests, the idempotency keys and the audit log. -/
structure HookFiles where
  manifests : List HookManifest := []
  keys : List String := []
  audit : List HookResult := []

namespace HookRegistry

def load (files : HookFiles) : Except HookError (List HookManifest) :=
  files.manifests.mapM HookManifest.reload

def save (files : HookFiles) (manifests : List HookManifest) : HookFiles :=
  { files with manifests }

/-- `import_manifest`; a manifest of the same id is replaced. -/
def importManifest (str : Json → String) (files : HookFiles)
    (data : Dict Json) : Except HookError HookManifest × HookFiles :=
  match HookManifest.fromDict str data true with
  | .error e => (.error e, files)
  | .ok manifest =>
      match load files with
      | .error e => (.error e, files)
      | .ok manifests =>
          (.ok manifest, save files
            (manifests.filter (·.hookId ≠ manifest.hookId) ++ [manifest]))

/-- The first manifest of the id is enabled. -/
def enable (hookId : String) (now : Json) :
    List HookManifest → Option (List HookManifest)
  | [] => none
  | manifest :: rest =>
      if manifest.hookId = hookId then
        some ({ manifest with enabled := true, approvedAt := some now } :: rest)
      else (enable hookId now rest).map (manifest :: ·)

def approve (files : HookFiles) (hookId : String) (now : Json) :
    Except HookError Unit × HookFiles :=
  match load files with
  | .error e => (.error e, files)
  | .ok manifests =>
      match enable hookId now manifests with
      | none => (.error (.key hookId), files)
      | some manifests => (.ok (), save files manifests)

end HookRegistry

inductive HandlerRun where
  | completed
  | failed (error : String)
  | timeout

/-- The items of a permission list go into a set; lists and objects cannot. -/
def hashable : Json → Bool
  | .arr _ => false
  | .obj _ => false
  | _ => true

def grants (permissions : List Json) (name : String) : Bool :=
  permissions.any fun
    | .str text => text == name
    | _ => false

/-- Why the handler may not run; none when it may. -/
def gate (manifest : HookManifest) : Except Unit (Option String) :=
  match handlerPermissions.get? manifest.handler with
  | none => .ok (some "handler is not allowlisted")
  | some expected =>
      if manifest.permissions.all hashable then
        if expected.all (grants manifest.permissions) then .ok none
        else .ok (some "required permissions were not granted")
      else .error ()

/-- `scoped_tests` converts the payload's own timeout, which may raise. -/
def boundedTimeout (manifest : HookManifest) (event : HookEvent) :
    Except Unit Unit :=
  if manifest.handler = "scoped_tests" then
    match event.payload.get? "test_timeout_seconds" with
    | none => .ok ()
    | some value => if value.toFloat.isSome then .ok () else .error ()
  else .ok ()

section Dispatch

variable (sha256 : List Char → String)

def rawKey (manifest : HookManifest) (event : HookEvent) : List Char :=
  manifest.hookId.toList ++ '|' :: manifest.idempotency.toList ++
    '|' :: event.runId.toList ++ '|' :: event.eventType.value.toList

def hookKey (manifest : HookManifest) (event : HookEvent) : String :=
  sha256 (rawKey manifest event)

/-- The result of a hook that is not a duplicate. -/
def attemptHandler (manifest : HookManifest) (event : HookEvent)
    (run : HandlerRun) : Except Unit HookResult := do
  let blocked ← gate manifest
  let finish (status : HookStatus) (error : String) : HookResult := {
    hookId := manifest.hookId
    eventId := event.eventId
    status, error
    proceed := status = .completed || manifest.failPolicy = .failOpen
    idempotencyKey := hookKey sha256 manifest event }
  match blocked with
  | some error => return finish .blocked error
  | none =>
      boundedTimeout manifest event
      match run with
      | .completed => return finish .completed ""
      | .failed error => return finish .failed error
      | .timeout => return finish .timeout "hook timeout"

def duplicate (manifest : HookManifest) (event : HookEvent) : HookResult where
  hookId := manifest.hookId
  eventId := event.eventId
  status := .duplicate
  proceed := true
  idempotencyKey := hookKey sha256 manifest event

/-- What a dispatch has made so far: the files, and each hook with its
result. -/
structure Dispatched where
  files : HookFiles
  results : List (HookManifest × HookResult) := []

def Dispatched.add (state : Dispatched) (manifest : HookManifest)
    (result : HookResult) (keys : List String) : Dispatched where
  files := { state.files with
    keys, audit := state.files.audit ++ [result] }
  results := state.results ++ [(manifest, result)]

/-- One hook after the other; `run` tells how each handler ends. -/
def dispatchHooks (event : HookEvent) (run : Nat → HandlerRun) :
    Nat → List HookManifest → Dispatched → Except Unit Unit × Dispatched
  | _, [], state => (.ok (), state)
  | place, manifest :: rest, state =>
      if !manifest.enabled || !manifest.events.contains event.eventType then
        dispatchHooks event run (place + 1) rest state
      else
        let key := hookKey sha256 manifest event
        if key ∈ state.files.keys then
          dispatchHooks event run (place + 1) rest
            (state.add manifest (duplicate sha256 manifest event)
              state.files.keys)
        else
          match attemptHandler sha256 manifest event (run place) with
          | .error () => (.error (), state)
          | .ok result =>
              dispatchHooks event run (place + 1) rest
                (state.add manifest result (key :: state.files.keys))

def dispatch (files : HookFiles) (event : HookEvent)
    (run : Nat → HandlerRun) : Except Unit Unit × Dispatched :=
  match HookRegistry.load files with
  | .error _ => (.error (), { files })
  | .ok manifests => dispatchHooks sha256 event run 0 manifests { files }

variable {sha256}

theorem attempt_cases {manifest : HookManifest} {event : HookEvent}
    {run : HandlerRun} {result : HookResult}
    (h : attemptHandler sha256 manifest event run = .ok result) :
    (result.status = .blocked ∨ gate manifest = .ok none ∧
        (result.status = .completed ∨ result.status = .failed ∨
          result.status = .timeout)) ∧
      result.proceed = (result.status = .completed ||
        manifest.failPolicy = .failOpen) := by
  unfold attemptHandler at h
  cases hgate : gate manifest with
  | error => rw [hgate] at h; cases h
  | ok blocked =>
      rw [hgate] at h
      cases blocked with
      | some error =>
          cases h
          exact ⟨.inl rfl, rfl⟩
      | none =>
          cases hbounded : boundedTimeout manifest event with
          | error => simp only [hbounded] at h; cases h
          | ok =>
              simp only [hbounded] at h
              cases run with
              | completed =>
                  cases h
                  exact ⟨.inr ⟨rfl, .inl rfl⟩, rfl⟩
              | failed error =>
                  cases h
                  exact ⟨.inr ⟨rfl, .inr (.inl rfl)⟩, rfl⟩
              | timeout =>
                  cases h
                  exact ⟨.inr ⟨rfl, .inr (.inr rfl)⟩, rfl⟩

theorem attempt_error_iff {manifest : HookManifest} {event : HookEvent}
    {run : HandlerRun} :
    attemptHandler sha256 manifest event run = .error () ↔
      gate manifest = .error () ∨
        gate manifest = .ok none ∧
          boundedTimeout manifest event = .error () := by
  unfold attemptHandler
  cases hgate : gate manifest with
  | error => exact ⟨fun _ => .inl rfl, fun _ => rfl⟩
  | ok blocked =>
      cases blocked with
      | some error =>
          constructor
          · intro h
            cases h
          · rintro (h | ⟨h, _⟩) <;> cases h
      | none =>
          cases hbounded : boundedTimeout manifest event with
          | error => exact ⟨fun _ => .inr ⟨rfl, rfl⟩, fun _ => rfl⟩
          | ok =>
              constructor
              · intro h
                cases run <;> cases h
              · rintro (h | ⟨_, h⟩) <;> cases h

/-- The rule of a dispatch: an invariant that each hook's turn keeps. -/
theorem dispatchHooks_rule {event : HookEvent} {run : Nat → HandlerRun}
    {hooks : List HookManifest} {Inv : List HookManifest → Dispatched → Prop}
    (hskip : ∀ past manifest rest state, hooks = past ++ manifest :: rest →
      Inv past state → Inv (past ++ [manifest]) state)
    (hduplicate : ∀ past manifest rest state,
      hooks = past ++ manifest :: rest →
      hookKey sha256 manifest event ∈ state.files.keys → Inv past state →
      Inv (past ++ [manifest]) (state.add manifest
        (duplicate sha256 manifest event) state.files.keys))
    (hattempt : ∀ past manifest rest state run result,
      hooks = past ++ manifest :: rest → manifest.enabled = true →
      attemptHandler sha256 manifest event run = .ok result → Inv past state →
      Inv (past ++ [manifest]) (state.add manifest result
        (hookKey sha256 manifest event :: state.files.keys)))
    (place : Nat) (past rest : List HookManifest) (state : Dispatched)
    (hhooks : hooks = past ++ rest) (h : Inv past state) :
    ∃ past', Inv past'
      (dispatchHooks sha256 event run place rest state).2 := by
  induction rest generalizing place past state with
  | nil => exact ⟨past, h⟩
  | cons manifest rest ih =>
      have hnext : hooks = (past ++ [manifest]) ++ rest := by
        rw [hhooks, List.append_assoc, List.singleton_append]
      unfold dispatchHooks
      split
      · exact ih _ _ _ hnext (hskip past manifest rest state hhooks h)
      · next hactive =>
          have henabled : manifest.enabled = true := by
            cases hcase : manifest.enabled with
            | true => rfl
            | false => simp [hcase] at hactive
          dsimp only
          split
          · next hkey =>
              exact ih _ _ _ hnext
                (hduplicate past manifest rest state hhooks hkey h)
          · split
            · exact ⟨past, h⟩
            · next result hresult =>
                exact ih _ _ _ hnext (hattempt past manifest rest state _
                  result hhooks henabled hresult h)

theorem dispatch_manifests (files : HookFiles) (event : HookEvent)
    (run : Nat → HandlerRun) :
    (dispatch sha256 files event run).2.files.manifests =
      files.manifests := by
  unfold dispatch
  split
  · rfl
  · next hooks _ =>
      obtain ⟨_, hsame⟩ := @dispatchHooks_rule sha256 event run hooks
        (fun _ state => state.files.manifests = files.manifests)
        (fun _ _ _ _ _ h => h) (fun _ _ _ _ _ _ h => h)
        (fun _ _ _ _ _ _ _ _ _ h => h) 0 [] hooks { files } rfl rfl
      exact hsame

theorem dispatchHooks_ok {event : HookEvent} {run : Nat → HandlerRun}
    {hooks : List HookManifest} {keys : List String}
    (h : ∀ manifest ∈ hooks, manifest.enabled = true →
      manifest.events.contains event.eventType = true →
      hookKey sha256 manifest event ∉ keys → ∀ run,
      attemptHandler sha256 manifest event run ≠ .error ())
    (place : Nat) (state : Dispatched) (hkeys : keys ⊆ state.files.keys) :
    (dispatchHooks sha256 event run place hooks state).1 = .ok () := by
  induction hooks generalizing place state with
  | nil => rfl
  | cons manifest rest ih =>
      obtain ⟨hfirst, hrest⟩ := List.forall_mem_cons.mp h
      unfold dispatchHooks
      split
      · exact ih hrest _ _ hkeys
      · next hactive =>
          dsimp only
          split
          · exact ih hrest _ _ hkeys
          · next hnew =>
              split
              · next herror =>
                  simp only [Bool.or_eq_true, Bool.not_eq_true', not_or,
                    Bool.not_eq_false] at hactive
                  exact absurd herror (hfirst hactive.1 hactive.2
                    (fun hold => hnew (hkeys hold)) _)
              · exact ih hrest _ _ fun key hkey =>
                  List.mem_cons_of_mem _ (hkeys hkey)

end Dispatch

end Voly
