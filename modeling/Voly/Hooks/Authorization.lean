/-
Runs of imports, approvals, saves and dispatches of hooks: which handlers are
run.
-/
import Voly.Hooks.Runtime
import Voly.Interaction.Steps
import Voly.Python.Loops

namespace Voly

open Python Interaction

/-- A handler that was run, and whether its hook was approved since import. -/
structure HandlerStart where
  manifest : HookManifest
  approved : Bool

/-- The files, the ids approved since import, the handlers run, whether one
raised. -/
structure RegistryWorld where
  files : HookFiles := {}
  approved : List String := []
  starts : List HandlerStart := []
  raised : Bool := false

inductive RegistryEvent where
  | importManifest (data : Dict Json)
  | approve (hookId : String) (now : Json)
  | save (manifests : List HookManifest)
  | load
  | dispatch (event : HookEvent) (run : Nat → HandlerRun)

/-- The handler ran, whatever came of it. -/
def HookStatus.ran : HookStatus → Bool
  | .completed => true
  | .failed => true
  | .timeout => true
  | .blocked => false
  | .duplicate => false

/-- The handlers that a dispatch has run. -/
def startsOf (approved : List String)
    (results : List (HookManifest × HookResult)) : List HandlerStart :=
  (results.filter fun item => item.2.status.ran).map fun item =>
    ⟨item.1, approved.contains item.1.hookId⟩

section Steps

variable (str : Json → String) (sha256 : List Char → String)

def registryStep (world : RegistryWorld) :
    RegistryEvent → Option RegistryWorld
  | .importManifest data =>
      match HookRegistry.importManifest str world.files data with
      | (.ok manifest, files) => some { world with
          files, approved := world.approved.filter (· ≠ manifest.hookId) }
      | (.error _, files) => some { world with files }
  | .approve hookId now =>
      match HookRegistry.approve world.files hookId now with
      | (.ok (), files) => some { world with
          files, approved := hookId :: world.approved }
      | (.error _, files) => some { world with files }
  | .save manifests => some { world with
      files := HookRegistry.save world.files manifests }
  | .load => some world
  | .dispatch event run =>
      let out := dispatch sha256 world.files event run
      some { world with
        files := out.2.files
        starts := world.starts ++ startsOf world.approved out.2.results
        raised := world.raised || match out.1 with
          | .ok () => false
          | .error () => true }

end Steps

/-- An imported hook was approved and has its handler's permissions. -/
structure HandlerStart.Authorized (start : HandlerStart) : Prop where
  approved : start.manifest.imported = true → start.approved = true
  granted : ∃ expected,
    handlerPermissions.get? start.manifest.handler = some expected ∧
      ∀ name ∈ expected, grants start.manifest.permissions name = true

/-- No dispatch has raised, and every handler that was run was authorized. -/
structure RegistryWorld.Lawful (world : RegistryWorld) : Prop where
  quiet : world.raised = false
  authorized : ∀ start ∈ world.starts, start.Authorized

def HookManifest.Loadable (manifest : HookManifest) : Prop :=
  outOfRange manifest.timeoutSeconds = false ∧
    strip manifest.idempotency ≠ ""

def EnabledAlready (manifests : List HookManifest) (hookId : String) : Prop :=
  ∃ held ∈ manifests, held.hookId = hookId ∧ held.imported = true ∧
    held.enabled = true

/-- The permissions compare, and the timeout for scoped tests is a number. -/
def Attemptable (event : HookEvent) (manifest : HookManifest) : Prop :=
  gate manifest ≠ .error () ∧
    (gate manifest = .ok none → boundedTimeout manifest event = .ok ())

/-- Saved manifests load again and enable no import; dispatches find only hooks
to attempt. -/
def Careful (sha256 : List Char → String) (world : RegistryWorld) :
    RegistryEvent → Prop
  | .save manifests => ∀ manifest ∈ manifests, manifest.Loadable ∧
      (manifest.imported = true → manifest.enabled = true →
        EnabledAlready world.files.manifests manifest.hookId)
  | .dispatch event _ => match HookRegistry.load world.files with
      | .ok hooks => ∀ hook ∈ hooks, hook.enabled = true →
          hook.events.contains event.eventType = true →
          hookKey sha256 hook event ∉ world.files.keys →
          Attemptable event hook
      | .error _ => True
  | _ => True

instance (manifest : HookManifest) : Decidable manifest.Loadable :=
  inferInstanceAs (Decidable (_ ∧ _))

instance (manifests : List HookManifest) (hookId : String) :
    Decidable (EnabledAlready manifests hookId) :=
  inferInstanceAs (Decidable (∃ held ∈ manifests, _))

instance (event : HookEvent) (manifest : HookManifest) :
    Decidable (Attemptable event manifest) :=
  inferInstanceAs (Decidable (_ ∧ (_ → _)))

instance (sha256 : List Char → String) (world : RegistryWorld)
    (event : RegistryEvent) : Decidable (Careful sha256 world event) := by
  unfold Careful
  split
  · infer_instance
  · split <;> infer_instance
  · infer_instance

theorem loadable_of_checkContract {timeout : PyFloat}
    {text idempotency : String}
    (h : checkContract timeout text = .ok idempotency) :
    outOfRange timeout = false ∧ strip idempotency ≠ "" := by
  obtain ⟨rfl, hrange, hblank⟩ := checkContract_ok h
  exact ⟨hrange, by rwa [strip_strip]⟩

theorem fromDict_cases {str : Json → String} {data : Dict Json}
    {manifest : HookManifest}
    (h : HookManifest.fromDict str data true = .ok manifest) :
    manifest.Loadable ∧ manifest.enabled = false := by
  unfold HookManifest.fromDict at h
  dsimp only at h
  split at h
  · cases h
  obtain ⟨timeout, _, h⟩ := ok_of_bind h
  obtain ⟨idempotency, hcontract, h⟩ := ok_of_bind h
  obtain ⟨_, _, h⟩ := ok_of_bind h
  obtain ⟨_, _, h⟩ := ok_of_bind h
  obtain ⟨_, _, h⟩ := ok_of_bind h
  obtain ⟨_, _, h⟩ := ok_of_bind h
  obtain ⟨_, _, h⟩ := ok_of_bind h
  cases h
  exact ⟨loadable_of_checkContract hcontract, rfl⟩

theorem reload_cases {manifest hook : HookManifest}
    (h : manifest.reload = .ok hook) :
    hook.Loadable ∧ hook.hookId = manifest.hookId ∧
      hook.imported = manifest.imported ∧ hook.enabled = manifest.enabled := by
  obtain ⟨idempotency, hcontract, h⟩ := ok_of_bind h
  cases h
  exact ⟨loadable_of_checkContract hcontract, rfl, rfl, rfl⟩

theorem exists_reload {manifest : HookManifest} (h : manifest.Loadable) :
    ∃ hook, manifest.reload = .ok hook := by
  obtain ⟨hrange, hblank⟩ := h
  refine ⟨{ manifest with idempotency := strip manifest.idempotency }, ?_⟩
  unfold HookManifest.reload checkContract
  simp only [hrange, hblank]
  rfl

theorem exists_load {files : HookFiles}
    (h : ∀ manifest ∈ files.manifests, manifest.Loadable) :
    ∃ hooks, HookRegistry.load files = .ok hooks :=
  exists_mapM fun manifest hmem => exists_reload (h manifest hmem)

/-- Enabled imports were approved since, and the registry can be loaded. -/
structure SoundRegistry (manifests : List HookManifest)
    (approved : List String) : Prop where
  loadable : ∀ manifest ∈ manifests, manifest.Loadable
  approved : ∀ manifest ∈ manifests, manifest.imported = true →
    manifest.enabled = true → manifest.hookId ∈ approved

variable {manifests hooks : List HookManifest} {approved : List String}
  {files : HookFiles}

theorem SoundRegistry.load (h : SoundRegistry files.manifests approved)
    (hload : HookRegistry.load files = .ok hooks) :
    SoundRegistry hooks approved := by
  have hsource := mem_of_mapM hload
  constructor
  · intro hook hhook
    obtain ⟨manifest, _, hreload⟩ := hsource hook hhook
    exact (reload_cases hreload).1
  · intro hook hhook himported henabled
    obtain ⟨manifest, hmem, hreload⟩ := hsource hook hhook
    obtain ⟨_, hid, hsame, hsame'⟩ := reload_cases hreload
    rw [hid]
    exact h.approved manifest hmem (hsame ▸ himported) (hsame' ▸ henabled)

theorem SoundRegistry.import {manifest : HookManifest}
    (h : SoundRegistry manifests approved) (hloadable : manifest.Loadable)
    (hdisabled : manifest.enabled = false) :
    SoundRegistry
      (manifests.filter (·.hookId ≠ manifest.hookId) ++ [manifest])
      (approved.filter (· ≠ manifest.hookId)) := by
  constructor
  · intro other hother
    rcases List.mem_append.mp hother with hold | hnew
    · exact h.loadable other (List.mem_of_mem_filter hold)
    · rwa [List.mem_singleton.mp hnew]
  · intro other hother himported henabled
    rcases List.mem_append.mp hother with hold | hnew
    · obtain ⟨hmem, hid⟩ := List.mem_filter.mp hold
      exact List.mem_filter.mpr
        ⟨h.approved other hmem himported henabled, hid⟩
    · rw [List.mem_singleton.mp hnew, hdisabled] at henabled
      cases henabled

theorem SoundRegistry.enable (h : SoundRegistry manifests approved)
    {hookId : String} {now : Json} {next : List HookManifest}
    (henable : HookRegistry.enable hookId now manifests = some next) :
    SoundRegistry next (hookId :: approved) := by
  have hmem : ∀ hook ∈ next, ∃ manifest ∈ manifests, hook = manifest ∨
      manifest.hookId = hookId ∧
        hook = { manifest with enabled := true, approvedAt := some now } := by
    clear h
    induction manifests generalizing next with
    | nil => cases henable
    | cons manifest rest ih =>
        unfold HookRegistry.enable at henable
        split at henable
        · next hid =>
            cases henable
            refine List.forall_mem_cons.mpr ⟨⟨manifest, by simp, .inr ⟨hid, rfl⟩⟩, ?_⟩
            exact fun hook hhook => ⟨hook, by simp [hhook], .inl rfl⟩
        · obtain ⟨others, hothers, rfl⟩ := Option.map_eq_some_iff.mp henable
          refine List.forall_mem_cons.mpr ⟨⟨manifest, by simp, .inl rfl⟩, ?_⟩
          intro hook hhook
          obtain ⟨found, hfound, hcase⟩ := ih hothers hook hhook
          exact ⟨found, List.mem_cons_of_mem _ hfound, hcase⟩
  constructor
  · intro hook hhook
    obtain ⟨manifest, hmanifest, rfl | ⟨_, rfl⟩⟩ := hmem hook hhook
    · exact h.loadable hook hmanifest
    · exact h.loadable manifest hmanifest
  · intro hook hhook himported henabled
    obtain ⟨manifest, hmanifest, rfl | ⟨hid, rfl⟩⟩ := hmem hook hhook
    · exact List.mem_cons_of_mem _
        (h.approved hook hmanifest himported henabled)
    · exact hid ▸ List.mem_cons_self

variable {sha256 : List Char → String} {event : HookEvent}
  {run : Nat → HandlerRun}

/-- Handlers were run only for enabled hooks that pass the gate. -/
def RanPassed (hooks : List HookManifest) (state : Dispatched) : Prop :=
  ∀ item ∈ state.results, item.2.status.ran = true →
    item.1 ∈ hooks ∧ item.1.enabled = true ∧ gate item.1 = .ok none

theorem RanPassed.add {state : Dispatched} (h : RanPassed hooks state)
    {manifest : HookManifest} {result : HookResult} (keys : List String)
    (hresult : result.status.ran = true → manifest ∈ hooks ∧
      manifest.enabled = true ∧ gate manifest = .ok none) :
    RanPassed hooks (state.add manifest result keys) := by
  intro item hitem
  rcases List.mem_append.mp hitem with hold | hnew
  · exact h item hold
  · rw [List.mem_singleton.mp hnew]
    exact hresult

theorem ran_of_dispatch (hload : HookRegistry.load files = .ok hooks) :
    RanPassed hooks (dispatch sha256 files event run).2 := by
  have hattempt : ∀ past manifest rest state run result,
      hooks = past ++ manifest :: rest → manifest.enabled = true →
      attemptHandler sha256 manifest event run = .ok result →
      RanPassed hooks state → RanPassed hooks (state.add manifest result
        (hookKey sha256 manifest event :: state.files.keys)) := by
    intro past manifest rest state run result hhooks henabled hresult h
    refine h.add _ fun hstatus => ⟨?_, henabled, ?_⟩
    · rw [hhooks]
      simp
    · obtain ⟨hblocked | ⟨hgate, _⟩, _⟩ := attempt_cases hresult
      · simp [hblocked, HookStatus.ran] at hstatus
      · exact hgate
  unfold dispatch
  rw [hload]
  obtain ⟨_, hran⟩ := @dispatchHooks_rule sha256 event run hooks
    (fun _ state => RanPassed hooks state) (fun _ _ _ _ _ h => h)
    (fun _ _ _ _ _ _ h => h.add _ nofun) hattempt 0 [] hooks { files } rfl
    (List.forall_mem_nil _)
  exact hran

theorem dispatch_ok (hload : HookRegistry.load files = .ok hooks)
    (h : ∀ hook ∈ hooks, hook.enabled = true →
      hook.events.contains event.eventType = true →
      hookKey sha256 hook event ∉ files.keys → Attemptable event hook) :
    (dispatch sha256 files event run).1 = .ok () := by
  unfold dispatch
  rw [hload]
  refine dispatchHooks_ok ?_ 0 { files } (List.Subset.refl _)
  intro manifest hmem henabled hevent hnew run herror
  obtain ⟨hgate, hbounded⟩ := h manifest hmem henabled hevent hnew
  rcases attempt_error_iff.mp herror with hraised | ⟨hpass, hraised⟩
  · exact hgate hraised
  · rw [hbounded hpass] at hraised
    cases hraised

/-- What `issubset` says. -/
theorem granted_of_gate {manifest : HookManifest}
    (h : gate manifest = .ok none) : ∃ expected,
      handlerPermissions.get? manifest.handler = some expected ∧
        ∀ name ∈ expected, grants manifest.permissions name = true := by
  unfold gate at h
  split at h
  · cases h
  · next expected hexpected =>
      split at h
      · split at h
        · next hall => exact ⟨expected, hexpected, List.all_eq_true.mp hall⟩
        · cases h
      · cases h

theorem RegistryWorld.Lawful.dispatch {world : RegistryWorld}
    (h : world.Lawful)
    (hsound : SoundRegistry world.files.manifests world.approved)
    (hcareful : Careful sha256 world (.dispatch event run)) {str next}
    (hstep : registryStep str sha256 world (.dispatch event run) =
      some next) : next.Lawful := by
  obtain ⟨hooks, hload⟩ := exists_load hsound.loadable
  simp only [Careful, hload] at hcareful
  cases hstep
  constructor
  · simp [h.quiet, dispatch_ok hload hcareful]
  · intro start hstart
    rcases List.mem_append.mp hstart with hold | hnew
    · exact h.authorized start hold
    · obtain ⟨item, hitem, rfl⟩ := List.mem_map.mp hnew
      obtain ⟨hresult, hran⟩ := List.mem_filter.mp hitem
      obtain ⟨hmem, henabled, hgate⟩ :=
        ran_of_dispatch hload item hresult hran
      refine ⟨fun himported => ?_, granted_of_gate hgate⟩
      have happroved :=
        (hsound.load hload).approved item.1 hmem himported henabled
      simpa using happroved

theorem SoundRegistry.step {str : Json → String} {world next : RegistryWorld}
    {event : RegistryEvent}
    (h : SoundRegistry world.files.manifests world.approved)
    (hcareful : Careful sha256 world event)
    (hstep : registryStep str sha256 world event = some next) :
    SoundRegistry next.files.manifests next.approved := by
  cases event with
  | load =>
      cases hstep
      exact h
  | save manifests =>
      cases hstep
      constructor
      · exact fun manifest hmem => (hcareful manifest hmem).1
      · intro manifest hmem himported henabled
        obtain ⟨held, hheld, hid, himported', henabled'⟩ :=
          (hcareful manifest hmem).2 himported henabled
        exact hid ▸ h.approved held hheld himported' henabled'
  | dispatch event run =>
      cases hstep
      simp only [dispatch_manifests]
      exact h
  | importManifest data =>
      obtain ⟨hooks, hload⟩ := exists_load h.loadable
      simp only [registryStep, HookRegistry.importManifest, hload] at hstep
      cases hdata : HookManifest.fromDict str data true with
      | error e =>
          simp only [hdata] at hstep
          cases hstep
          exact h
      | ok manifest =>
          simp only [hdata] at hstep
          cases hstep
          obtain ⟨hloadable, hdisabled⟩ := fromDict_cases hdata
          exact (h.load hload).import hloadable hdisabled
  | approve hookId now =>
      obtain ⟨hooks, hload⟩ := exists_load h.loadable
      simp only [registryStep, HookRegistry.approve, hload] at hstep
      cases henable : HookRegistry.enable hookId now hooks with
      | none =>
          simp only [henable] at hstep
          cases hstep
          exact h
      | some next =>
          simp only [henable] at hstep
          cases hstep
          exact (h.load hload).enable henable

/-- What every run of careful steps keeps. -/
structure RegistryWorld.Kept (world : RegistryWorld) : Prop where
  registry : SoundRegistry world.files.manifests world.approved
  lawful : world.Lawful

theorem RegistryWorld.Kept.step {str : Json → String}
    {sha256 : List Char → String} {world next : RegistryWorld}
    {event : RegistryEvent} (h : world.Kept)
    (hcareful : Careful sha256 world event)
    (hstep : registryStep str sha256 world event = some next) :
    next.Kept := by
  obtain ⟨hsound, hlawful⟩ := h
  refine ⟨hsound.step hcareful hstep, ?_⟩
  cases event with
  | dispatch event run => exact hlawful.dispatch hsound hcareful hstep
  | load =>
      cases hstep
      exact hlawful
  | save manifests =>
      cases hstep
      exact ⟨hlawful.quiet, hlawful.authorized⟩
  | importManifest data =>
      simp only [registryStep] at hstep
      split at hstep <;> cases hstep <;>
        exact ⟨hlawful.quiet, hlawful.authorized⟩
  | approve hookId now =>
      simp only [registryStep] at hstep
      split at hstep <;> cases hstep <;>
        exact ⟨hlawful.quiet, hlawful.authorized⟩

namespace AuthorizationWitness

def data : Dict Json :=
  [("hook_id", .str "tests"), ("handler", .str "scoped_tests"),
    ("events", .arr [.str "run_started"]),
    ("permissions", .arr [.str "execute_tests"]),
    ("timeout_seconds", .num 60), ("idempotency", .str "run-event-v1"),
    ("fail_policy", .str "fail_open")]

def str : Json → String
  | .str text => text
  | _ => ""

def digest (text : List Char) : String := String.ofList text

def dispatchWith (timeout : Json) : RegistryEvent :=
  .dispatch { eventType := .runStarted, runId := "run-1",
              payload := [("test_timeout_seconds", timeout)],
              eventId := "event-1" } fun _ => .completed

def eventsWith (timeout : Json) : List RegistryEvent :=
  [.importManifest data, .approve "tests" (.num 0), dispatchWith timeout]

def worldAfter (events : List RegistryEvent) : RegistryWorld :=
  (follow (registryStep str digest) {} events).getD {}

theorem follow_worldAfter (events : List RegistryEvent) :
    follow (registryStep str digest) {} events = some (worldAfter events) := by
  have hstep : ∀ world event, ∃ next,
      registryStep str digest world event = some next := by
    intro world event
    apply Option.isSome_iff_exists.mp
    cases event with
    | importManifest | approve =>
        simp only [registryStep]
        split <;> simp
    | save | load | dispatch => simp [registryStep]
  obtain ⟨next, hnext⟩ := exists_follow hstep {} events
  rw [worldAfter, hnext]
  rfl

def enabled : HookManifest where
  hookId := "tests"
  handler := "scoped_tests"
  events := [.runStarted]
  permissions := [.str "execute_tests"]
  timeoutSeconds := .finite 60
  idempotency := "run-event-v1"
  failPolicy := .failOpen
  enabled := true
  imported := true

end AuthorizationWitness

end Voly
