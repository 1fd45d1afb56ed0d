/-
Runs of saves whose process may crash between two replacements: what is stored,
and what can be repeated.
-/
import Voly.Sensing.Signals
import Voly.Interaction.Steps

namespace Voly

open Python Interaction

inductive SignalCall where
  | save (signal : Signal)
  | saveMany (signals : List Signal)
  | saveOptions (signal : Signal) (options : List (Option Json))

/-- A call, and after how many replacements its process crashes if it does. -/
structure SignalEvent where
  call : SignalCall
  crash : Option Nat := none

/-- The disk, and the signals whose file was written. -/
structure SignalWorld where
  disk : SignalDisk := {}
  stored : List Signal := []

def Replacement.stored? : Replacement → Option Signal
  | .signal _ written => some written
  | .options _ _ _ => none
  | .index _ => none

section Steps

variable (utcDay : String → Option String)

/-- Whether the call raises, and its replacements. -/
def SignalCall.run (disk : SignalDisk) :
    SignalCall → Except SensingError Unit × List Replacement
  | .save signal =>
      let out := SignalStore.save utcDay disk signal
      (out.1.map fun _ => (), out.2)
  | .saveMany signals =>
      let out := SignalStore.saveMany utcDay disk signals
      (out.1.map fun _ => (), out.2)
  | .saveOptions signal options =>
      let out := SignalStore.saveOptions utcDay signal options
      (out.1.map fun _ => (), out.2)

/-- The replacements before the crash. -/
def SignalEvent.performed (disk : SignalDisk) (event : SignalEvent) :
    List Replacement :=
  let replacements := (event.call.run utcDay disk).2
  match event.crash with
  | none => replacements
  | some n => replacements.take n

def signalStep (world : SignalWorld) (event : SignalEvent) :
    Option SignalWorld :=
  let made := event.performed utcDay world.disk
  some { disk := world.disk.perform made
         stored := world.stored ++ made.filterMap Replacement.stored? }

end Steps

/-- The listed signals are the stored ones, at most one for each key. -/
structure SignalWorld.Lawful (str : Json → String) (world : SignalWorld) :
    Prop where
  listed : (SignalStore.list str world.disk).Perm world.stored
  single : (world.stored.map Signal.dedupKey).Nodup

/-- The call destroys no stored signal, and can be made again after a crash. -/
structure CallLaw (str : Json → String) (utcDay : String → Option String)
    (world : SignalWorld) (event : SignalEvent) : Prop where
  kept : ∀ signal ∈ SignalStore.list str world.disk, signal ∈
    SignalStore.list str
      (world.disk.perform (event.performed utcDay world.disk))
  again : (event.call.run utcDay world.disk).1.isOk = true →
    (event.call.run utcDay
      (world.disk.perform (event.performed utcDay world.disk))).1.isOk = true

section Conditions

variable (str : Json → String) (utcDay : String → Option String)

/-- The call does not crash between a signal and the index. -/
def BetweenSaves (event : SignalEvent) : Prop :=
  match event.call, event.crash with
  | .saveOptions _ _, _ => True
  | _, none => True
  | _, some n => n % 2 = 0

/-- Saved signals have a version, and options go to no signal's file. -/
def OwnFiles (disk : SignalDisk) : SignalCall → Prop
  | .save signal => signal.schemaVersion ≠ 0
  | .saveMany signals => ∀ signal ∈ signals, signal.schemaVersion ≠ 0
  | .saveOptions signal _ => ∀ file ∈ disk.files,
      (SignalStore.optionsPath utcDay signal).toOption = some file.path →
        (SignalStore.readFile str file).isNone = true

def Undisturbed (world : SignalWorld) (event : SignalEvent) : Prop :=
  BetweenSaves event ∧ OwnFiles str utcDay world.disk event.call

instance (event : SignalEvent) : Decidable (BetweenSaves event) := by
  unfold BetweenSaves
  split <;> infer_instance

instance (disk : SignalDisk) (call : SignalCall) :
    Decidable (OwnFiles str utcDay disk call) := by
  unfold OwnFiles
  split <;> infer_instance

instance (world : SignalWorld) (event : SignalEvent) :
    Decidable (Undisturbed str utcDay world event) :=
  inferInstanceAs (Decidable (_ ∧ _))

end Conditions

section Reading

variable {str : Json → String}

theorem Signal.create_self (signal : Signal) :
    Signal.create signal.signalId signal.source signal.sourceRef
      signal.capturedAt signal.dedupKey signal.payload
      (.finite signal.confidence) signal.schemaVersion = .ok signal := by
  simp [Signal.create, signal.named, signal.sourced, signal.keyed, signal.low,
    signal.high]

theorem present_str (signal : Signal) :
    textOf str (present signal.toDict "source_ref" (.str "")) =
      signal.sourceRef := by
  by_cases hempty : signal.sourceRef = ""
  · simp [present, Signal.toDict, Dict.get?, Json.truthy, hempty, textOf]
  · simp [present, Signal.toDict, Dict.get?, Json.truthy, hempty, textOf]

theorem present_payload (signal : Signal) :
    dictOf (present signal.toDict "payload" (.obj [])) =
      .ok signal.payload := by
  cases hpayload : signal.payload with
  | nil =>
      simp [present, Signal.toDict, Dict.get?, Json.truthy, hpayload, dictOf]
  | cons field rest =>
      simp [present, Signal.toDict, Dict.get?, Json.truthy, hpayload, dictOf]

theorem present_version {signal : Signal} (h : signal.schemaVersion ≠ 0) :
    converted (present signal.toDict "schema_version" (.num 1)).toInt =
      .ok signal.schemaVersion := by
  simp [present, Signal.toDict, Dict.get?, Json.truthy, h, converted]

theorem readFile_signal {path : SignalPath} {signal : Signal}
    (h : signal.schemaVersion ≠ 0) :
    SignalStore.readFile str ⟨path, .obj signal.toDict⟩ = some signal := by
  have hconfidence : converted
      ((signal.toDict.get? "confidence").getD (.num 0)).toFloat =
        .ok (.finite signal.confidence) := by
    simp [Signal.toDict, Dict.get?, Json.toFloat_num signal.low signal.high,
      converted]
  have hread : Signal.fromDict str signal.toDict = .ok signal := by
    unfold Signal.fromDict
    rw [hconfidence, present_payload, present_version h]
    change Signal.create signal.signalId signal.source
      (textOf str (present signal.toDict "source_ref" (.str "")))
      signal.capturedAt signal.dedupKey signal.payload
      (.finite signal.confidence) signal.schemaVersion = .ok signal
    rw [present_str, signal.create_self]
  simp [SignalStore.readFile, hread, Except.toOption]

theorem readFile_options (path : SignalPath) (signalId : String)
    (options : List Json) :
    SignalStore.readFile str
      ⟨path, .obj (optionsArtifact signalId options)⟩ = none := rfl

end Reading

/-- The files hold the stored signals, and the index holds their keys. -/
structure StoredOn (str : Json → String) (disk : SignalDisk)
    (stored : List Signal) : Prop where
  files : (disk.files.filterMap (SignalStore.readFile str)).Perm stored
  indexed : ∀ key, (disk.loadIndex.get? key).isSome = true ↔
    key ∈ stored.map Signal.dedupKey
  single : (stored.map Signal.dedupKey).Nodup

section Saves

variable {str : Json → String} {utcDay : String → Option String}
variable {disk : SignalDisk} {stored : List Signal} {signal : Signal}

theorem StoredOn.lawful (h : StoredOn str disk stored) :
    SignalWorld.Lawful str ⟨disk, stored⟩ :=
  ⟨(List.mergeSort_perm _ _).trans h.files, h.single⟩

theorem save_of_indexed (utcDay : String → Option String)
    (h : (disk.loadIndex.get? signal.dedupKey).isSome = true) :
    SignalStore.save utcDay disk signal = (.ok false, []) := by
  simp [SignalStore.save, h]

theorem save_cases (utcDay : String → Option String) (disk : SignalDisk)
    (signal : Signal) :
    (disk.loadIndex.get? signal.dedupKey).isSome = true ∨
    (∃ error, SignalStore.save utcDay disk signal = (.error error, [])) ∨
    (∃ target, (disk.loadIndex.get? signal.dedupKey).isSome = false ∧
      target ∉ disk.files.map SignalFile.path ∧
      SignalStore.save utcDay disk signal = (.ok true,
        [.signal target signal, .index
          (disk.loadIndex.set signal.dedupKey target.relative)])) := by
  cases hindexed : (disk.loadIndex.get? signal.dedupKey).isSome with
  | true => exact Or.inl rfl
  | false =>
      refine Or.inr ?_
      cases hpath : SignalStore.path utcDay signal with
      | error error =>
          exact Or.inl ⟨error, by simp [SignalStore.save, hindexed, hpath]⟩
      | ok target =>
          cases hexists : disk.exists? target with
          | true =>
              exact Or.inl ⟨_, by
                simp [SignalStore.save, hindexed, hpath, hexists]; rfl⟩
          | false =>
              refine Or.inr ⟨target, rfl, ?_, ?_⟩
              · simpa [SignalDisk.exists?] using hexists
              · simp [SignalStore.save, hindexed, hpath, hexists]

theorem StoredOn.save (h : StoredOn str disk stored)
    (hversion : signal.schemaVersion ≠ 0) {target : SignalPath}
    (hnew : (disk.loadIndex.get? signal.dedupKey).isSome = false)
    (htarget : target ∉ disk.files.map SignalFile.path) :
    StoredOn str (disk.perform [.signal target signal, .index
      (disk.loadIndex.set signal.dedupKey target.relative)])
      (stored ++ [signal]) := by
  have hfresh : signal.dedupKey ∉ stored.map Signal.dedupKey := by
    rw [← h.indexed, hnew]
    exact Bool.false_ne_true
  refine ⟨?_, ?_, ?_⟩
  · rcases Keyed.put_cases SignalFile.path
      ⟨target, .obj signal.toDict⟩ disk.files with
      ⟨_, hput⟩ | ⟨front, old, rest, hfiles, hold, _⟩
    · simp only [SignalDisk.perform_cons, SignalDisk.perform_nil,
        SignalDisk.replace, hput, List.filterMap_append]
      refine h.files.append ?_
      simp [readFile_signal hversion]
    · exact absurd (by simp [hfiles, hold]) htarget
  · intro key
    simp only [SignalDisk.perform_cons, SignalDisk.perform_nil,
      SignalDisk.replace, SignalDisk.loadIndex, Option.getD_some,
      Dict.get?_set, List.map_append, List.mem_append]
    by_cases hkey : signal.dedupKey = key
    · simp [hkey]
    · have hother : key ≠ signal.dedupKey := Ne.symm hkey
      have hheld := h.indexed key
      rw [SignalDisk.loadIndex] at hheld
      simpa [hkey, hother] using hheld
  · rw [List.map_append, List.nodup_append]
    refine ⟨h.single, by simp, ?_⟩
    intro held hheld other hother
    simp only [List.map_cons, List.map_nil, List.mem_singleton] at hother
    intro hsame
    rw [hsame, hother] at hheld
    exact hfresh hheld

theorem isOk_map {E A B : Type} (f : A → B) (x : Except E A) :
    (x.map f).isOk = x.isOk := by
  cases x <;> rfl

theorem saveMany_of_indexed (utcDay : String → Option String)
    (rest : List Signal)
    (h : (disk.loadIndex.get? signal.dedupKey).isSome = true) :
    (SignalStore.saveMany utcDay disk (signal :: rest)).1.isOk =
      (SignalStore.saveMany utcDay disk rest).1.isOk := by
  rw [SignalStore.saveMany, save_of_indexed utcDay h]
  exact isOk_map _ _

/-- What a batch leaves that crashes after an even number of replacements. -/
structure Resumable (str : Json → String) (utcDay : String → Option String)
    (disk : SignalDisk) (stored signals : List Signal)
    (made : List Replacement) : Prop where
  stored : StoredOn str (disk.perform made)
    (stored ++ made.filterMap Replacement.stored?)
  resumes : (SignalStore.saveMany utcDay disk signals).1.isOk = true →
    (SignalStore.saveMany utcDay (disk.perform made) signals).1.isOk = true

theorem saveMany_resumable (str : Json → String)
    (utcDay : String → Option String) :
    ∀ (signals : List Signal) (disk : SignalDisk) (stored : List Signal)
      (n : Nat), StoredOn str disk stored →
      (∀ signal ∈ signals, signal.schemaVersion ≠ 0) → n % 2 = 0 →
      Resumable str utcDay disk stored signals
        ((SignalStore.saveMany utcDay disk signals).2.take n) := by
  intro signals
  induction signals with
  | nil =>
      intro disk stored n h hversions heven
      have hnone : (SignalStore.saveMany utcDay disk []).2.take n = [] := by
        simp [SignalStore.saveMany]
      rw [hnone]
      exact ⟨by simpa using h, fun hok => hok⟩
  | cons signal rest ih =>
      intro disk stored n h hversions heven
      have hrest : ∀ other ∈ rest, other.schemaVersion ≠ 0 :=
        fun other hother => hversions other (by simp [hother])
      rcases save_cases utcDay disk signal with
        hindexed | ⟨error, hraises⟩ | ⟨target, hnew, htarget, hsave⟩
      · -- a known key: the rest is saved on the same disk
        have hfirst := save_of_indexed utcDay hindexed
        have hlater := ih disk stored n h hrest heven
        have hmade : (SignalStore.saveMany utcDay disk (signal :: rest)).2 =
            (SignalStore.saveMany utcDay disk rest).2 := by
          simp [SignalStore.saveMany, hfirst]
        rw [hmade]
        refine ⟨hlater.stored, fun hok => ?_⟩
        rw [saveMany_of_indexed utcDay rest hindexed] at hok
        rw [saveMany_of_indexed utcDay rest]
        · exact hlater.resumes hok
        · rw [hlater.stored.indexed, List.map_append]
          exact List.mem_append_left _ ((h.indexed _).mp hindexed)
      · have hnone : (SignalStore.saveMany utcDay disk
            (signal :: rest)).2.take n = [] := by
          simp [SignalStore.saveMany, hraises]
        rw [hnone]
        refine ⟨by simpa using h, fun hok => hok⟩
      · cases n with
        | zero => exact ⟨by simpa using h, fun hok => hok⟩
        | succ n =>
            cases n with
            | zero => cases heven
            | succ n =>
                have heven' : n % 2 = 0 := by omega
                have hsaved :=
                  h.save (hversions signal (by simp)) hnew htarget
                have hlater := ih _ _ n hsaved hrest heven'
                have hmade : (SignalStore.saveMany utcDay disk
                    (signal :: rest)).2.take (n + 1 + 1) =
                    .signal target signal :: .index (disk.loadIndex.set
                      signal.dedupKey target.relative) ::
                      (SignalStore.saveMany utcDay (disk.perform
                        [.signal target signal, .index (disk.loadIndex.set
                          signal.dedupKey target.relative)]) rest).2.take n := by
                  simp [SignalStore.saveMany, hsave]
                rw [hmade]
                have hstored := hlater.stored
                refine ⟨?_, ?_⟩
                · simpa [List.filterMap_cons, Replacement.stored?]
                    using hstored
                · intro hok
                  rw [SignalStore.saveMany, hsave, isOk_map] at hok
                  rw [saveMany_of_indexed utcDay rest]
                  · exact hlater.resumes hok
                  · have hkey :=
                      (hstored.indexed signal.dedupKey).mpr (by simp)
                    simpa using hkey

theorem save_eq_saveMany (utcDay : String → Option String)
    (disk : SignalDisk) (signal : Signal) :
    (SignalStore.save utcDay disk signal).1.isOk =
        (SignalStore.saveMany utcDay disk [signal]).1.isOk ∧
      (SignalStore.save utcDay disk signal).2 =
        (SignalStore.saveMany utcDay disk [signal]).2 := by
  rw [SignalStore.saveMany]
  rcases hsave : SignalStore.save utcDay disk signal with
    ⟨error | isNew, replacements⟩
  · exact ⟨rfl, rfl⟩
  · refine ⟨?_, by simp [SignalStore.saveMany]⟩
    rw [isOk_map]
    rfl

theorem filterMap_put_options {options : List (Option Json)}
    {serialized : List Json} {target : SignalPath}
    (hown : OwnFiles str utcDay disk (.saveOptions signal options))
    (htarget : SignalStore.optionsPath utcDay signal = .ok target) :
    (Keyed.put SignalFile.path ⟨target, .obj
      (optionsArtifact signal.signalId serialized)⟩ disk.files).filterMap
        (SignalStore.readFile str) =
      disk.files.filterMap (SignalStore.readFile str) := by
  have hnew : SignalStore.readFile str
      ⟨target, .obj (optionsArtifact signal.signalId serialized)⟩ = none :=
    readFile_options target signal.signalId serialized
  rcases Keyed.put_cases SignalFile.path ⟨target, .obj
    (optionsArtifact signal.signalId serialized)⟩ disk.files with
    ⟨_, hput⟩ | ⟨front, old, rest, hfiles, hold, hput⟩
  · rw [hput, List.filterMap_append]
    simp [hnew]
  · have hmem : old ∈ disk.files := by simp [hfiles]
    have hread : SignalStore.readFile str old = none := by
      have hnone := hown old hmem (by rw [htarget, hold]; rfl)
      exact Option.isNone_iff_eq_none.mp hnone
    rw [hput, hfiles]
    simp [hnew, hread]

theorem StoredOn.saveOptions (h : StoredOn str disk stored)
    {options : List (Option Json)}
    (hown : OwnFiles str utcDay disk (.saveOptions signal options))
    (n : Nat) :
    StoredOn str (disk.perform
      ((SignalStore.saveOptions utcDay signal options).2.take n)) stored ∧
    ((SignalStore.saveOptions utcDay signal options).2.take n).filterMap
      Replacement.stored? = [] := by
  unfold SignalStore.saveOptions
  cases options.mapM id with
  | none => simpa using h
  | some serialized =>
      cases htarget : SignalStore.optionsPath utcDay signal with
      | error error => simpa using h
      | ok target =>
          cases n with
          | zero => simpa using h
          | succ n =>
              have hfiles : ((Keyed.put SignalFile.path ⟨target, .obj
                  (optionsArtifact signal.signalId serialized)⟩
                  disk.files).filterMap (SignalStore.readFile str)).Perm
                    stored := by
                rw [filterMap_put_options hown htarget]
                exact h.files
              simp only [List.take_succ_cons, List.take_nil]
              exact ⟨⟨hfiles, h.indexed, h.single⟩, rfl⟩

end Saves

section Runs

variable {str : Json → String} {utcDay : String → Option String}

/-- An event performs a first part of its call's replacements, of even length
for saves. -/
theorem exists_take (utcDay : String → Option String) (disk : SignalDisk)
    {event : SignalEvent} (h : BetweenSaves event) :
    ∃ n, event.performed utcDay disk =
        (event.call.run utcDay disk).2.take n ∧
      ((∀ signal options, event.call ≠ .saveOptions signal options) →
        n % 2 = 0) := by
  obtain ⟨call, crash⟩ := event
  cases crash with
  | none =>
      refine ⟨2 * (call.run utcDay disk).2.length, ?_, fun _ => by simp⟩
      rw [SignalEvent.performed, List.take_of_length_le]
      exact Nat.le_mul_of_pos_left _ (by decide)
  | some n =>
      refine ⟨n, rfl, fun hcall => ?_⟩
      cases call with
      | save signal => exact h
      | saveMany signals => exact h
      | saveOptions signal options => exact absurd rfl (hcall signal options)

section

variable {world : SignalWorld} {event : SignalEvent}
  (h : StoredOn str world.disk world.stored)
  (hundisturbed : Undisturbed str utcDay world event)
include h hundisturbed

theorem StoredOn.step :
    StoredOn str (world.disk.perform (event.performed utcDay world.disk))
      (world.stored ++ (event.performed utcDay world.disk).filterMap
        Replacement.stored?) ∧
    ((event.call.run utcDay world.disk).1.isOk = true →
      (event.call.run utcDay (world.disk.perform
        (event.performed utcDay world.disk))).1.isOk = true) := by
  obtain ⟨hbetween, hown⟩ := hundisturbed
  obtain ⟨n, hmade, heven⟩ := exists_take utcDay world.disk hbetween
  rw [hmade]
  obtain ⟨call, crash⟩ := event
  cases call with
  | save signal =>
      have hversion : signal.schemaVersion ≠ 0 := hown
      have hbatch := saveMany_resumable str utcDay [signal] world.disk
        world.stored n h (by simpa using hversion)
        (heven fun _ _ hcall => by cases hcall)
      have hsame (disk : SignalDisk) := save_eq_saveMany utcDay disk signal
      simp only [SignalCall.run, isOk_map, (hsame _).1, (hsame _).2]
      exact ⟨hbatch.stored, hbatch.resumes⟩
  | saveMany signals =>
      have hbatch := saveMany_resumable str utcDay signals world.disk
        world.stored n h hown (heven fun _ _ hcall => by cases hcall)
      simp only [SignalCall.run, isOk_map]
      exact ⟨hbatch.stored, hbatch.resumes⟩
  | saveOptions signal options =>
      obtain ⟨hstored, hnone⟩ := h.saveOptions hown n
      simp only [SignalCall.run]
      rw [hnone, List.append_nil]
      exact ⟨hstored, fun hok => hok⟩

theorem StoredOn.callLaw :
    CallLaw str utcDay world event := by
  obtain ⟨hstored, hagain⟩ := h.step hundisturbed
  refine ⟨fun signal hsignal => ?_, hagain⟩
  have hmem := h.lawful.listed.mem_iff.mp hsignal
  exact hstored.lawful.listed.mem_iff.mpr (List.mem_append_left _ hmem)

end

/-- As long as no crash falls between a signal and the index, and options
overwrite no signal, every call obeys its law and the signals stay listed. -/
theorem signals_crash_safe (str : Json → String)
    (utcDay : String → Option String) (events : List SignalEvent)
    (world : SignalWorld)
    (h : Throughout (signalStep utcDay) (Undisturbed str utcDay) {} events)
    (hrun : follow (signalStep utcDay) {} events = some world) :
    Throughout (signalStep utcDay) (CallLaw str utcDay) {} events ∧
      world.Lawful str := by
  have hstart : StoredOn str ({} : SignalWorld).disk
      ({} : SignalWorld).stored :=
    ⟨.nil, by simp [SignalDisk.loadIndex, Dict.get?], List.nodup_nil⟩
  constructor
  · refine h.implies (fun world => StoredOn str world.disk world.stored) ?_
      hstart
    intro world event hstored hundisturbed
    refine ⟨hstored.callLaw hundisturbed, ?_⟩
    intro next hstep
    cases hstep
    exact (hstored.step hundisturbed).1
  · have hstep : ∀ world event next,
        StoredOn str world.disk world.stored →
        Undisturbed str utcDay world event →
        signalStep utcDay world event = some next →
        StoredOn str next.disk next.stored := by
      intro world event next hstored hundisturbed hstep
      cases hstep
      exact (hstored.step hundisturbed).1
    exact (follow_invariant hstep hstart h hrun).lawful

end Runs

namespace CrashSafeWitness

def str : Json → String
  | .str text => text
  | _ => ""

def utcDay (raw : String) : Option String := some (slice 10 raw)

def signalOf (signalId dedupKey : String)
    (named : invalidSignalId signalId = false) (keyed : dedupKey ≠ "") :
    Signal where
  signalId := signalId
  source := "rss"
  sourceRef := ""
  capturedAt := "2026-08-27T10:03:00Z"
  dedupKey := dedupKey
  payload := [("title", .str "news")]
  confidence := 1 / 2
  named := named
  sourced := by decide
  keyed := keyed
  low := by norm_num
  high := by norm_num

def first : Signal := signalOf "s1" "k1" (by decide) (by decide)

def second : Signal := signalOf "s2" "k1" (by decide) (by decide)

def named : Signal := signalOf "s1.options" "k2" (by decide) (by decide)

def worldAfter (events : List SignalEvent) : SignalWorld :=
  (follow (signalStep utcDay) {} events).getD {}

theorem follow_worldAfter (events : List SignalEvent) :
    follow (signalStep utcDay) {} events = some (worldAfter events) := by
  have hstep : ∀ world event, ∃ next,
      signalStep utcDay world event = some next :=
    fun _ _ => ⟨_, rfl⟩
  obtain ⟨next, hnext⟩ := exists_follow hstep {} events
  rw [worldAfter, hnext]
  rfl

/-- A save raises when repeated, a key is stored twice, options overwrite a
signal. -/
theorem crash_between_files :
    ¬Throughout (signalStep utcDay) (CallLaw str utcDay) {}
        [⟨.save first, some 1⟩] ∧
      ¬(worldAfter [⟨.save first, some 1⟩, ⟨.save second, none⟩]).Lawful str ∧
      ¬Throughout (signalStep utcDay) (CallLaw str utcDay) {}
        [⟨.save named, none⟩, ⟨.saveOptions first [], none⟩] := by
  refine ⟨?_, ?_, ?_⟩
  · intro h
    have hagain := h.head.again (by decide +kernel)
    revert hagain
    decide +kernel
  · intro h
    have hsingle := h.single
    revert hsingle
    decide +kernel
  · intro h
    have hlaw := (h.tail rfl).head
    have hstored : (SignalStore.list str
        (worldAfter [⟨.save named, none⟩]).disk).isEmpty = false := by
      decide +kernel
    have hgone : (SignalStore.list str (worldAfter [⟨.save named, none⟩,
        ⟨.saveOptions first [], none⟩]).disk).isEmpty = true := by
      decide +kernel
    obtain ⟨signal, hsignal⟩ := List.exists_mem_of_ne_nil _ (by
      simpa using hstored)
    have hkept : signal ∈ SignalStore.list str (worldAfter
        [⟨.save named, none⟩, ⟨.saveOptions first [], none⟩]).disk :=
      hlaw.kept signal hsignal
    rw [List.isEmpty_iff.mp hgone] at hkept
    cases hkept

/-- A batch that crashes between two signals and is saved again. -/
theorem batch_saved_again :
    Throughout (signalStep utcDay) (CallLaw str utcDay) {}
        [⟨.saveMany [first, named], some 2⟩,
          ⟨.saveMany [first, second, named], none⟩,
          ⟨.saveOptions named [], none⟩] ∧
      (worldAfter [⟨.saveMany [first, named], some 2⟩,
        ⟨.saveMany [first, second, named], none⟩,
        ⟨.saveOptions named [], none⟩]).Lawful str :=
  signals_crash_safe str utcDay _ _ (by decide +kernel) (follow_worldAfter _)

end CrashSafeWitness

end Voly
