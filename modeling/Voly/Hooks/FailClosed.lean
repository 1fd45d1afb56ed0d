/-
Runs of dispatches on one registry: when a fail-closed hook that lets the run
proceed has completed.
-/
import Voly.Framing.Marks
import Voly.Hooks.Runtime
import Voly.Interaction.Steps

namespace Voly

open Python Framing Interaction

/-- A hook that was dispatched to, with its event and its result. -/
structure HookEntry where
  event : HookEvent
  manifest : HookManifest
  result : HookResult

/-- The files, and the results of all dispatches so far. -/
structure HookWorld where
  files : HookFiles
  history : List HookEntry := []

/-- An event, and how the handler at each place of the registry ends. -/
structure HookCall where
  event : HookEvent
  run : Nat → HandlerRun

def entries (event : HookEvent) (results : List (HookManifest × HookResult)) :
    List HookEntry :=
  results.map fun item => ⟨event, item.1, item.2⟩

/-- A dispatch; what it did before it raised stays done. -/
def dispatchStep (sha256 : List Char → String) (world : HookWorld)
    (call : HookCall) : Option HookWorld :=
  let out := (dispatch sha256 world.files call.event call.run).2
  some ⟨out.files, world.history ++ entries call.event out.results⟩

/-- A fail-closed hook lets a run proceed only when it has completed for it. -/
def FailClosedHolds (history : List HookEntry) : Prop :=
  ∀ entry ∈ history, entry.manifest.failPolicy = .failClosed →
    entry.result.proceed = true →
    ∃ other ∈ history, other.manifest = entry.manifest ∧
      other.event.runId = entry.event.runId ∧
      other.event.eventType = entry.event.eventType ∧
      other.result.status = .completed

/-- Hooks share a key only for the same hook id, idempotency, run and event
type. -/
def KeysTellApart (sha256 : List Char → String)
    (hooks : List HookManifest) : Prop :=
  ∀ hook ∈ hooks, ∀ other ∈ hooks, ∀ event event' : HookEvent,
    hookKey sha256 hook event = hookKey sha256 other event' →
    hook.hookId = other.hookId ∧ hook.idempotency = other.idempotency ∧
      event.runId = event'.runId ∧ event.eventType = event'.eventType

def HookManifest.stem (manifest : HookManifest) : List Char :=
  manifest.hookId.toList ++ '|' :: manifest.idempotency.toList ++ ['|']

/-- No key of one hook begins like a key of the other. -/
def StemsApart (hook other : HookManifest) : Prop :=
  ¬hook.stem <+: other.stem ∧ ¬other.stem <+: hook.stem

instance : DecidableRel StemsApart := fun hook other =>
  inferInstanceAs (Decidable (¬hook.stem <+: other.stem ∧ _))

instance : Std.Symm StemsApart := ⟨fun _ _ => And.symm⟩

/-- The hooks of a registry, each apart from the others. -/
def Apart (hooks : List HookManifest) : Prop := hooks.Pairwise StemsApart

instance (hooks : List HookManifest) : Decidable (Apart hooks) :=
  inferInstanceAs (Decidable (hooks.Pairwise StemsApart))

/-- The hook neither completed nor was found done. -/
def HookStatus.missed : HookStatus → Bool
  | .completed => false
  | .duplicate => false
  | .failed => true
  | .timeout => true
  | .blocked => true

/-- No fail-closed hook has missed this event of the run before. -/
def NotMissed (world : HookWorld) (call : HookCall) : Prop :=
  ∀ entry ∈ world.history, entry.manifest.failPolicy = .failClosed →
    entry.event.runId = call.event.runId →
    entry.event.eventType = call.event.eventType →
    entry.result.status.missed = false

instance (world : HookWorld) (call : HookCall) :
    Decidable (NotMissed world call) :=
  inferInstanceAs (Decidable (∀ entry ∈ world.history, _))

theorem rawKey_eq (manifest : HookManifest) (event : HookEvent) :
    rawKey manifest event =
      manifest.stem ++ (event.runId.toList ++
        '|' :: event.eventType.value.toList) := by
  simp [rawKey, HookManifest.stem]

section

variable {event event' : HookEvent} {hooks : List HookManifest}

theorem bar_not_mem_value (eventType : HookEventType) :
    '|' ∉ eventType.value.toList := by
  cases eventType <;> decide +kernel

theorem run_inj {run run' : List Char} {eventType eventType' : HookEventType}
    (h : run ++ '|' :: eventType.value.toList =
      run' ++ '|' :: eventType'.value.toList) :
    run = run' ∧ eventType = eventType' := by
  have hreversed := congrArg List.reverse h
  simp only [List.reverse_append, List.reverse_cons, List.append_assoc,
    List.singleton_append] at hreversed
  obtain ⟨hvalue, hrest⟩ := field_inj
    (by simpa using bar_not_mem_value eventType)
    (by simpa using bar_not_mem_value eventType')
    (opens_cons _) (opens_cons _) hreversed
  constructor
  · simpa using hrest
  · exact HookEventType.value_injective
      (String.toList_injective (List.reverse_injective hvalue))

theorem same_run {manifest : HookManifest}
    (h : rawKey manifest event = rawKey manifest event') :
    event.runId = event'.runId ∧ event.eventType = event'.eventType := by
  rw [rawKey_eq, rawKey_eq] at h
  obtain ⟨hrun, htype⟩ := run_inj (List.append_cancel_left h)
  exact ⟨String.toList_injective hrun, htype⟩

theorem stems_meet {manifest other : HookManifest}
    (h : rawKey manifest event = rawKey other event') :
    manifest.stem <+: other.stem ∨ other.stem <+: manifest.stem := by
  rw [rawKey_eq, rawKey_eq] at h
  exact List.prefix_or_prefix_of_prefix ⟨_, h⟩ (List.prefix_append _ _)

theorem Apart.eq_of_rawKey (h : Apart hooks) {hook other : HookManifest}
    (hhook : hook ∈ hooks) (hother : other ∈ hooks)
    (hkey : rawKey hook event = rawKey other event') : hook = other := by
  by_contra hne
  obtain ⟨hnot, hnot'⟩ := List.Pairwise.forall h hhook hother hne
  exact (stems_meet hkey).elim hnot hnot'

theorem keysTellApart_of_apart {sha256 : List Char → String}
    (hsha : Function.Injective sha256) (h : Apart hooks) :
    KeysTellApart sha256 hooks := by
  intro hook hhook other hother event event' hkey
  have hraw : rawKey hook event = rawKey other event' := hsha hkey
  have hsame := h.eq_of_rawKey hhook hother hraw
  subst hsame
  exact ⟨rfl, rfl, same_run hraw⟩

end

/-- Every key is the key of a hook that was attempted. -/
def KeysAttempted (sha256 : List Char → String) (hooks : List HookManifest)
    (keys : List String) (history : List HookEntry) : Prop :=
  ∀ key ∈ keys, ∃ entry ∈ history, entry.manifest ∈ hooks ∧
    entry.result.status ≠ .duplicate ∧
    key = hookKey sha256 entry.manifest entry.event

/-- What holds in a dispatch once the hooks `past` had their turn. -/
structure DispatchSound (sha256 : List Char → String) (past : List HookManifest)
    (hooks : List HookManifest) (before : List HookEntry) (event : HookEvent)
    (state : Dispatched) : Prop where
  keys : KeysAttempted sha256 hooks state.files.keys
    (before ++ entries event state.results)
  holds : FailClosedHolds (before ++ entries event state.results)
  past : ∀ item ∈ state.results, item.1 ∈ past

theorem FailClosedHolds.snoc {history : List HookEntry}
    (h : FailClosedHolds history) {entry : HookEntry}
    (hentry : entry.manifest.failPolicy = .failClosed →
      entry.result.proceed = true →
      ∃ other ∈ history ++ [entry], other.manifest = entry.manifest ∧
        other.event.runId = entry.event.runId ∧
        other.event.eventType = entry.event.eventType ∧
        other.result.status = .completed) :
    FailClosedHolds (history ++ [entry]) := by
  intro other hother hclosed hproceed
  rcases List.mem_append.mp hother with hold | hnew
  · obtain ⟨found, hfound, hrest⟩ := h other hold hclosed hproceed
    exact ⟨found, List.mem_append_left _ hfound, hrest⟩
  · rw [List.mem_singleton.mp hnew] at hclosed hproceed ⊢
    exact hentry hclosed hproceed

theorem entries_add (event : HookEvent) (state : Dispatched)
    (manifest : HookManifest) (result : HookResult) (keys : List String) :
    entries event (state.add manifest result keys).results =
      entries event state.results ++ [⟨event, manifest, result⟩] := by
  simp [entries, Dispatched.add]

variable {sha256 : List Char → String} {past hooks : List HookManifest}
  {before : List HookEntry} {event : HookEvent} {state : Dispatched}

theorem KeysAttempted.append {keys : List String} {history : List HookEntry}
    (h : KeysAttempted sha256 hooks keys history) (more : List HookEntry) :
    KeysAttempted sha256 hooks keys (history ++ more) := by
  intro key hkey
  obtain ⟨entry, hentry, hrest⟩ := h key hkey
  exact ⟨entry, List.mem_append_left _ hentry, hrest⟩

theorem DispatchSound.add (h : DispatchSound sha256 past hooks before event
      state) {manifest : HookManifest} {result : HookResult}
    {keys : List String}
    (hkeys : KeysAttempted sha256 hooks keys
      ((before ++ entries event state.results) ++
        [⟨event, manifest, result⟩]))
    (hentry : manifest.failPolicy = .failClosed → result.proceed = true →
      ∃ other ∈ (before ++ entries event state.results) ++
          [⟨event, manifest, result⟩], other.manifest = manifest ∧
        other.event.runId = event.runId ∧
        other.event.eventType = event.eventType ∧
        other.result.status = .completed) :
    DispatchSound sha256 (past ++ [manifest]) hooks before event
      (state.add manifest result keys) := by
  constructor
  · rw [entries_add, ← List.append_assoc]
    exact hkeys
  · rw [entries_add, ← List.append_assoc]
    exact h.holds.snoc hentry
  · intro item hitem
    rcases List.mem_append.mp hitem with hold | hnew
    · exact List.mem_append_left _ (h.past item hold)
    · rw [List.mem_singleton.mp hnew]
      exact List.mem_append_right _ (List.mem_singleton_self _)

theorem DispatchSound.duplicate (hsha : Function.Injective sha256)
    {manifest : HookManifest} {rest : List HookManifest}
    (happart : Apart (past ++ manifest :: rest))
    (h : DispatchSound sha256 past (past ++ manifest :: rest) before event
      state)
    (hmissed : ∀ entry ∈ before, entry.manifest.failPolicy = .failClosed →
      entry.event.runId = event.runId →
      entry.event.eventType = event.eventType →
      entry.result.status.missed = false)
    (hkey : hookKey sha256 manifest event ∈ state.files.keys) :
    DispatchSound sha256 (past ++ [manifest]) (past ++ manifest :: rest)
      before event (state.add manifest (duplicate sha256 manifest event)
        state.files.keys) := by
  refine h.add (h.keys.append _) fun hclosed _ => ?_
  obtain ⟨entry, hentry, hmem, hnot, hsame⟩ := h.keys _ hkey
  have hraw := hsha hsame
  have hmanifest : manifest = entry.manifest :=
    happart.eq_of_rawKey (by simp) hmem hraw
  have hnotPast : manifest ∉ past := by
    intro hpast
    have hpair := (List.pairwise_append.mp happart).2.2 manifest hpast
      manifest (List.mem_cons_self ..)
    exact hpair.1 (List.prefix_refl _)
  rcases List.mem_append.mp hentry with hbefore | hnow
  · rw [hmanifest] at hraw
    obtain ⟨hrun, htype⟩ := same_run hraw
    refine ⟨entry, by simp [hbefore], hmanifest.symm, hrun.symm, htype.symm,
      ?_⟩
    have hstatus := hmissed entry hbefore (hmanifest ▸ hclosed) hrun.symm
      htype.symm
    cases hcase : entry.result.status with
    | completed => rfl
    | duplicate => exact absurd hcase hnot
    | failed | timeout | blocked => simp [hcase, HookStatus.missed] at hstatus
  · obtain ⟨item, hitem, rfl⟩ := List.mem_map.mp hnow
    exact absurd (hmanifest ▸ h.past item hitem) hnotPast

theorem DispatchSound.attempt {manifest : HookManifest} {run : HandlerRun}
    {result : HookResult}
    (h : DispatchSound sha256 past hooks before event state)
    (hmem : manifest ∈ hooks)
    (hresult : attemptHandler sha256 manifest event run = .ok result) :
    DispatchSound sha256 (past ++ [manifest]) hooks before event
      (state.add manifest result
        (hookKey sha256 manifest event :: state.files.keys)) := by
  obtain ⟨hstatus, hproceed⟩ := attempt_cases hresult
  refine h.add ?_ ?_
  · intro key hkey
    rcases List.mem_cons.mp hkey with rfl | hold
    · refine ⟨⟨event, manifest, result⟩, by simp, hmem, ?_, rfl⟩
      rcases hstatus with hcase | ⟨_, hcase | hcase | hcase⟩ <;>
        simp [hcase]
    · exact h.keys.append _ key hold
  · intro hclosed hgo
    have hdone : result.status = .completed := by
      simpa [hgo, hclosed] using hproceed
    exact ⟨⟨event, manifest, result⟩, by simp, rfl, rfl, rfl, hdone⟩

theorem dispatch_sound (hsha : Function.Injective sha256)
    {world : HookWorld} (hload : HookRegistry.load world.files = .ok hooks)
    (happart : Apart hooks)
    (hkeys : KeysAttempted sha256 hooks world.files.keys world.history)
    (hholds : FailClosedHolds world.history) {call : HookCall}
    (hmissed : NotMissed world call) :
    ∃ past, DispatchSound sha256 past hooks world.history call.event
      (dispatch sha256 world.files call.event call.run).2 := by
  unfold dispatch
  rw [hload]
  refine @dispatchHooks_rule sha256 call.event call.run hooks _ ?_ ?_ ?_ 0 []
    hooks _ rfl ?_
  · intro past manifest rest state _ h
    exact ⟨h.keys, h.holds, fun item hitem =>
      List.mem_append_left _ (h.past item hitem)⟩
  · intro past manifest rest state hhooks hkey h
    subst hhooks
    exact h.duplicate hsha happart hmissed hkey
  · intro past manifest rest state run result hhooks _ hresult h
    have hmem : manifest ∈ hooks := by
      rw [hhooks]
      simp
    exact h.attempt hmem hresult
  · exact ⟨by simpa [entries] using hkeys, by simpa [entries] using hholds,
      List.forall_mem_nil _⟩

/-- The registry stays, kept keys were attempted, no fail-closed hook was let
past. -/
structure HookWorld.Kept (sha256 : List Char → String)
    (manifests hooks : List HookManifest) (world : HookWorld) : Prop where
  same : world.files.manifests = manifests
  keys : KeysAttempted sha256 hooks world.files.keys world.history
  holds : FailClosedHolds world.history

/-- With hooks apart and no event again after a miss, a fail-closed hook that
lets the run proceed has completed. -/
theorem fail_closed_holds (sha256 : List Char → String)
    (hsha : Function.Injective sha256) (manifests hooks : List HookManifest)
    (hload : HookRegistry.load { manifests } = .ok hooks)
    (happart : Apart hooks) (calls : List HookCall) (world : HookWorld)
    (h : Throughout (dispatchStep sha256) NotMissed ⟨{ manifests }, []⟩ calls)
    (hrun : follow (dispatchStep sha256) ⟨{ manifests }, []⟩ calls =
      some world) :
    FailClosedHolds world.history ∧ KeysTellApart sha256 hooks := by
  refine ⟨?_, keysTellApart_of_apart hsha happart⟩
  have hstart : HookWorld.Kept sha256 manifests hooks ⟨{ manifests }, []⟩ :=
    ⟨rfl, List.forall_mem_nil _, List.forall_mem_nil _⟩
  have hstep : ∀ world call next, HookWorld.Kept sha256 manifests hooks world →
      NotMissed world call → dispatchStep sha256 world call = some next →
      HookWorld.Kept sha256 manifests hooks next := by
    intro world call next hkept hmissed hnext
    cases hnext
    have hloads : HookRegistry.load world.files = .ok hooks := by
      rw [← hload, HookRegistry.load, HookRegistry.load, hkept.same]
    obtain ⟨past, hsound⟩ :=
      dispatch_sound hsha hloads happart hkept.keys hkept.holds hmissed
    exact ⟨(dispatch_manifests _ _ _).trans hkept.same, hsound.keys,
      hsound.holds⟩
  exact (follow_invariant hstep hstart h hrun).holds

namespace FailClosedWitness

def hookOf (hookId idempotency : String) : HookManifest where
  hookId := hookId
  handler := "docs_check"
  events := [.runStarted]
  permissions := [.str "read_project", .str "read_docs"]
  timeoutSeconds := .finite 1
  idempotency := idempotency
  failPolicy := .failClosed
  enabled := true

def hook : HookManifest := hookOf "docs" "run-event-v1"

def eventOf (runId : String) : HookEvent where
  eventType := .runStarted
  runId := runId
  eventId := "event-1"

def callOf (run : HandlerRun) : HookCall := ⟨eventOf "run-1", fun _ => run⟩

def digest (text : List Char) : String := String.ofList text

theorem digest_injective : Function.Injective digest :=
  fun _ _ => String.ofList_injective

def worldAfter (calls : List HookCall) : HookWorld :=
  (follow (dispatchStep digest) ⟨{ manifests := [hook] }, []⟩ calls).getD
    ⟨{}, []⟩

theorem follow_worldAfter (calls : List HookCall) :
    follow (dispatchStep digest) ⟨{ manifests := [hook] }, []⟩ calls =
      some (worldAfter calls) := by
  obtain ⟨next, hnext⟩ := exists_follow
    (fun world call => ⟨_, rfl⟩ : ∀ world call, ∃ next,
      dispatchStep digest world call = some next)
    ⟨{ manifests := [hook] }, []⟩ calls
  rw [worldAfter, hnext]
  rfl

theorem not_failClosedHolds {history : List HookEntry}
    (hproceeds : ∃ entry ∈ history, entry.manifest.failPolicy = .failClosed ∧
      entry.result.proceed = true)
    (hnone : ∀ entry ∈ history, entry.result.status ≠ .completed) :
    ¬FailClosedHolds history := by
  intro h
  obtain ⟨entry, hentry, hclosed, hproceed⟩ := hproceeds
  obtain ⟨other, hother, _, _, _, hdone⟩ := h entry hentry hclosed hproceed
  exact hnone other hother hdone

/-- A failed hook lets the repeated event pass; two hooks with bars share a key.
-/
theorem duplicate_after_failure :
    ¬FailClosedHolds (worldAfter [callOf (.failed "no docs"),
        callOf (.failed "no docs")]).history ∧
      ¬KeysTellApart digest [hookOf "a|b" "c", hookOf "a" "b|c"] := by
  constructor
  · exact not_failClosedHolds (by decide +kernel) (by decide +kernel)
  · intro h
    have hsame := (h (hookOf "a|b" "c") (by simp) (hookOf "a" "b|c") (by simp)
      (eventOf "run-1") (eventOf "run-1") (by decide +kernel)).1
    exact absurd hsame (by decide +kernel)

theorem load_hook :
    HookRegistry.load { manifests := [hook] } = .ok [hook] := by
  have hreload : hook.reload = .ok hook :=
    HookManifest.reload_eq (by decide +kernel) (by decide +kernel)
      (by decide +kernel)
  simp [HookRegistry.load, hreload]

/-- A hook that has completed may be dispatched to again. -/
theorem completed_twice :
    FailClosedHolds (worldAfter [callOf .completed,
        callOf .completed]).history ∧
      KeysTellApart digest [hook] :=
  fail_closed_holds digest digest_injective [hook] [hook] load_hook
    (by decide +kernel) [callOf .completed, callOf .completed]
    (worldAfter [callOf .completed, callOf .completed]) (by decide +kernel)
    (follow_worldAfter _)

end FailClosedWitness

end Voly
