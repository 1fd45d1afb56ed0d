/-
The Worker's `POST /snapshots`: checking and storing a snapshot, and the table
of pack states.
-/
import Voly.Worker.Json
import Voly.Python.Bytes
import Voly.Interaction.Steps

namespace Worker

open Python Interaction

/-- `/^[0-9a-f]{64}$/`. -/
def isSha256 (s : String) : Bool :=
  s.toList.length == 64 &&
    s.toList.all fun c => c.isDigit || ('a' ≤ c && c ≤ 'f')

/-- `Number.isInteger(value) && value >= 1` on the text of a number. -/
def isPositiveInteger : Option Doc → Bool
  | some (.atom x) =>
      match x.text with
      | [] => false
      | c :: rest =>
          c.isDigit && c != '0' &&
            (rest.all Char.isDigit || rest.any (· == '+'))
  | _ => false

def isState : Option Doc → Bool
  | some (.str s) => ["pilot", "active", "retired"].contains s
  | _ => false

/-- `Object.values(hashes)`: a string's code units; nothing for a number. -/
def objectValues : Doc → List Doc
  | .dict items => items.map Prod.snd
  | .list items => items
  | .str s =>
      (utf16 s).map fun unit => .str (String.singleton (Char.ofNat unit))
  | .atom _ => []

/-- `validatePack`: the error of a pack that is refused. -/
def validatePack (pack : Doc) : Except Unit (Option String) := do
  if ← missing (← property pack "capability_id") then
    return some "capability_id required"
  if !isPositiveInteger (← property pack "version") then
    return some "version must be a positive integer"
  if !isState (← property pack "state") then
    return some "invalid pack state"
  let hash := present (← property pack "definition_hash")
  if !isSha256 ((hash.map coerce).getD "") then
    return some "definition_hash must be sha256"
  let provenance := present (← property pack "provenance")
  let hashes ←
    match provenance with
    | some value => property value "instruction_hashes"
    | none => pure none
  let values := (present hashes).elim [] objectValues
  if values.length > 64 then
    return some "too many provenance hashes"
  if values.any fun value => !isSha256 (coerce value) then
    return some "provenance values must be sha256"
  return none

/-- The answer to a request; `failed` is an exception, answered with its
message. -/
inductive Response where
  | ok (status : Nat) (snapshotId : String) (idempotent : Bool) (packs : Nat)
  | error (status : Nat) (message : String)
  | failed

def Response.isOk : Response → Bool
  | .ok _ _ _ _ => true
  | _ => false

/-- A request: its header, and its body unless that is no JSON. -/
structure Request where
  authorization : Option String
  body : Option Doc

/-- The content of a snapshot that has passed the checks. -/
structure Snapshot where
  executorId : String
  packs : List Doc

def schemaVersion : AtomText := ⟨['1'], rfl⟩

def Snapshot.content (snapshot : Snapshot) : Doc :=
  .dict [("schema_version", .atom schemaVersion),
    ("executor_id", .str snapshot.executorId),
    ("packs", .list snapshot.packs)]

def Snapshot.payloadJson (snapshot : Snapshot) : List Char :=
  stableStringify snapshot.content

/-- The first pack that is refused or that throws decides. -/
def validatePacks : List Doc → Except Response Unit
  | [] => .ok ()
  | pack :: rest =>
      match validatePack pack with
      | .error _ => .error .failed
      | .ok (some error) => .error (.error 400 error)
      | .ok none => validatePacks rest

section Handler

variable (sha256 : List Char → String)

def Snapshot.id (snapshot : Snapshot) : String :=
  sha256 snapshot.payloadJson

def authorized (secret : String) (header : Option String) : Bool :=
  match header with
  | some header =>
      startsWith header "Bearer " && secret != "" &&
        sha256 (header.toList.drop 7) == sha256 secret.toList
  | none => false

/-- An exception of the handler. -/
def orFailed {A : Type} : Except Unit A → Except Response A
  | .ok value => .ok value
  | .error _ => .error .failed

/-- What stands before the database is asked. -/
def checkSnapshot (body : Doc) : Except Response Snapshot := do
  match ← orFailed (property body "schema_version") with
  | some (.atom x) =>
      if x ≠ schemaVersion then
        throw (.error 400 "unsupported schema_version")
  | _ => throw (.error 400 "unsupported schema_version")
  let executor ← orFailed (property body "executor_id")
  if ← orFailed (missing executor) then
    throw (.error 400 "executor_id required")
  match executor, ← orFailed (property body "packs") with
  | some (.str executorId), some (.list packs) =>
      if packs.length > 32 then
        throw (.error 400 "packs must contain at most 32 items")
      validatePacks packs
      let snapshot : Snapshot := ⟨executorId, packs⟩
      match ← orFailed (property body "snapshot_id") with
      | some (.str snapshotId) =>
          if snapshotId ≠ snapshot.id sha256 then
            throw (.error 400 "snapshot hash mismatch")
          return snapshot
      | _ => throw (.error 400 "snapshot hash mismatch")
  | _, _ => throw (.error 400 "packs must contain at most 32 items")

def checkRequest (secret : String) (request : Request) :
    Except Response Snapshot :=
  if authorized sha256 secret request.authorization then
    match request.body with
    | some body => checkSnapshot sha256 body
    | none => .error .failed
  else .error (.error 401 "unauthorized")

/-- The key of `evaluated_pack_state`. -/
structure PackKey where
  capabilityId : String
  version : AtomText
  executorId : String
deriving DecidableEq

structure PackState where
  snapshotId : String
  state : String
  definitionHash : String
  provenanceJson : List Char
  decisionJson : List Char
deriving DecidableEq

/-- A value that is bound as a text. -/
def asString : Option Doc → Option String
  | some (.str s) => some s
  | _ => none

def asNumber : Option Doc → Option AtomText
  | some (.atom x) => some x
  | _ => none

/-- The row of a pack, unless one of its values cannot be bound. -/
def packEntry (executorId snapshotId : String) (pack : Doc) :
    Option (PackKey × PackState) :=
  match pack with
  | .dict items => do
      let capabilityId ← asString (Dict.get? items "capability_id")
      let version ← asNumber (Dict.get? items "version")
      let state ← asString (Dict.get? items "state")
      let definitionHash ← asString (Dict.get? items "definition_hash")
      let provenance ← Dict.get? items "provenance"
      let decision ← Dict.get? items "decision"
      some (⟨capabilityId, version, executorId⟩,
        ⟨snapshotId, state, definitionHash, stableStringify provenance,
          stableStringify decision⟩)
  | _ => none

/-- `evaluated_snapshots` as the hash of each row's payload, and
`evaluated_pack_state`. -/
structure Database where
  snapshots : String → Option String
  states : PackKey → Option PackState

def Snapshot.entries (snapshot : Snapshot) : List (PackKey × PackState) :=
  snapshot.packs.filterMap
    (packEntry snapshot.executorId (snapshot.id sha256))

/-- Every value of the snapshot can be bound to its statement. -/
def Snapshot.bindable (snapshot : Snapshot) : Bool :=
  snapshot.packs.all fun pack =>
    (packEntry snapshot.executorId (snapshot.id sha256) pack).isSome

/-- `INSERT ... ON CONFLICT DO UPDATE`. -/
def upsert (states : PackKey → Option PackState)
    (entry : PackKey × PackState) : PackKey → Option PackState :=
  Function.update states entry.1 (some entry.2)

/-- What follows the checks. -/
def storeSnapshot (db : Database) (snapshot : Snapshot) :
    Response × Database :=
  let payloadHash := snapshot.id sha256
  match db.snapshots payloadHash with
  | some payloadSha256 =>
      if payloadSha256 ≠ payloadHash then
        (.error 409 "snapshot conflict", db)
      else (.ok 200 payloadHash true snapshot.packs.length, db)
  | none =>
      if snapshot.bindable sha256 then
        (.ok 201 payloadHash false snapshot.packs.length,
          { snapshots :=
              Function.update db.snapshots payloadHash (some payloadHash)
            states := (snapshot.entries sha256).foldl upsert db.states })
      else (.failed, db)

def postSnapshots (secret : String) (db : Database) (request : Request) :
    Response × Database :=
  match checkRequest sha256 secret request with
  | .error response => (response, db)
  | .ok snapshot => storeSnapshot sha256 db snapshot

end Handler

section Rows

variable (sha256 : List Char → String)

/-- The row of a pack from its fields in the order of their keys. -/
def sortedEntry (executorId snapshotId : String) (pack : Doc) :
    Option (PackKey × PackState) :=
  match pack with
  | .dict items => do
      let capabilityId ← asString (Dict.get? items "capability_id")
      let version ← asNumber (Dict.get? items "version")
      let state ← asString (Dict.get? items "state")
      let definitionHash ← asString (Dict.get? items "definition_hash")
      let provenance ← Dict.get? items "provenance"
      let decision ← Dict.get? items "decision"
      some (⟨capabilityId, version, executorId⟩,
        ⟨snapshotId, state, definitionHash, provenance.write false,
          decision.write false⟩)
  | _ => none

theorem asString_sortKeys (value : Option Doc) :
    asString (value.map (Doc.sortKeys keyLe)) = asString value := by
  cases value with
  | none => rfl
  | some value => cases value <;> rfl

theorem asNumber_sortKeys (value : Option Doc) :
    asNumber (value.map (Doc.sortKeys keyLe)) = asNumber value := by
  cases value with
  | none => rfl
  | some value => cases value <;> rfl

theorem packEntry_eq (executorId snapshotId : String) (pack : Doc) :
    packEntry executorId snapshotId pack =
      sortedEntry executorId snapshotId (pack.sortKeys keyLe) := by
  cases pack with
  | dict items =>
      simp only [packEntry, Doc.sortKeys, sortedEntry,
        get?_sortFields keyLe_refl, asString_sortKeys, asNumber_sortKeys,
        Option.bind_eq_bind, Option.bind_map]
      rfl
  | _ => rfl

theorem packEntry_snapshotId {executorId snapshotId : String} {pack : Doc}
    {entry : PackKey × PackState}
    (h : packEntry executorId snapshotId pack = some entry) :
    entry.2.snapshotId = snapshotId := by
  cases pack with
  | dict items =>
      simp only [packEntry, Option.bind_eq_bind, Option.bind_eq_some_iff] at h
      obtain ⟨_, _, _, _, _, _, _, _, _, _, _, _, heq⟩ := h
      cases heq
      rfl
  | _ => cases h

theorem Snapshot.entries_snapshotId {snapshot : Snapshot}
    {entry : PackKey × PackState} (h : entry ∈ snapshot.entries sha256) :
    entry.2.snapshotId = snapshot.id sha256 := by
  obtain ⟨pack, _, hpack⟩ := List.mem_filterMap.mp h
  exact packEntry_snapshotId hpack

theorem Snapshot.sortKeys_content (snapshot : Snapshot) :
    snapshot.content.sortKeys keyLe =
      .dict [("executor_id", .str snapshot.executorId),
        ("packs", .list (Doc.sortItems keyLe snapshot.packs)),
        ("schema_version", .atom schemaVersion)] := by
  have hpacks : keyLe "executor_id" "packs" = true := by decide +kernel
  have hschema : keyLe "schema_version" "executor_id" = false := by
    decide +kernel
  have hlast : keyLe "schema_version" "packs" = false := by decide +kernel
  simp [Snapshot.content, Doc.sortKeys, Doc.sortFields, insertField, hpacks,
    hschema, hlast]

variable {sha256} in
theorem Snapshot.eq_of_id (hsha : Function.Injective sha256)
    {snapshot other : Snapshot} (h : snapshot.id sha256 = other.id sha256) :
    snapshot.entries sha256 = other.entries sha256 ∧
      snapshot.bindable sha256 = other.bindable sha256 := by
  have hcontent : snapshot.content.sortKeys keyLe =
      other.content.sortKeys keyLe := write_injective false (hsha h)
  rw [Snapshot.sortKeys_content, Snapshot.sortKeys_content] at hcontent
  have hfields := Doc.dict.inj hcontent
  simp only [List.cons.injEq, Prod.mk.injEq, Doc.str.injEq, Doc.list.injEq,
    true_and, and_true] at hfields
  obtain ⟨hexecutor, hpacks⟩ := hfields
  rw [sortItems_eq_map, sortItems_eq_map] at hpacks
  have hentry : packEntry snapshot.executorId (snapshot.id sha256) =
      (sortedEntry other.executorId (other.id sha256)) ∘
        Doc.sortKeys keyLe := by
    funext pack
    rw [packEntry_eq, hexecutor, h]
    rfl
  have hother : packEntry other.executorId (other.id sha256) =
      (sortedEntry other.executorId (other.id sha256)) ∘
        Doc.sortKeys keyLe := by
    funext pack
    exact packEntry_eq _ _ _
  constructor
  · rw [Snapshot.entries, Snapshot.entries, hentry, hother,
      ← List.filterMap_map, ← List.filterMap_map, hpacks]
  · have hall (packs : List Doc) :
        (packs.all fun pack => (((sortedEntry other.executorId
          (other.id sha256)) ∘ Doc.sortKeys keyLe) pack).isSome) =
        (packs.map (Doc.sortKeys keyLe)).all fun pack =>
          (sortedEntry other.executorId (other.id sha256) pack).isSome := by
      rw [List.all_map]
      rfl
    rw [Snapshot.bindable, Snapshot.bindable, hentry, hother, hall, hall,
      hpacks]

end Rows

/-- The database, and the snapshots that were answered ok, latest first. -/
structure SyncWorld where
  db : Database
  accepted : List Snapshot := []

section Runs

variable (sha256 : List Char → String) (secret : String)

def SyncWorld.post (world : SyncWorld) (request : Request) : SyncWorld :=
  let out := postSnapshots sha256 secret world.db request
  ⟨out.2,
    match checkRequest sha256 secret request with
    | .ok snapshot =>
        if out.1.isOk then snapshot :: world.accepted else world.accepted
    | .error _ => world.accepted⟩

def syncStep (world : SyncWorld) (request : Request) : Option SyncWorld :=
  some (world.post sha256 secret request)

/-- An accepted snapshot is in effect for each pack that no later one contains.
-/
def SyncWorld.InEffect (world : SyncWorld) : Prop :=
  ∀ later snapshot earlier,
    world.accepted = later ++ snapshot :: earlier →
    ∀ entry ∈ snapshot.entries sha256,
      (∀ other ∈ later, ∀ row ∈ other.entries sha256, row.1 ≠ entry.1) →
      world.db.states entry.1 = some entry.2

/-- No two packs of the snapshot claim one row for different contents. -/
def Snapshot.Consistent (snapshot : Snapshot) : Prop :=
  ∀ entry ∈ snapshot.entries sha256, ∀ other ∈ snapshot.entries sha256,
    other.1 = entry.1 → other.2 = entry.2

/-- A storable snapshot is consistent; a repeated one is still shown. -/
def SettledIn (db : Database) : Except Response Snapshot → Prop
  | .ok snapshot =>
      snapshot.bindable sha256 = true →
        snapshot.Consistent sha256 ∧
          ((db.snapshots (snapshot.id sha256)).isSome →
            ∀ entry ∈ snapshot.entries sha256,
              (db.states entry.1).map PackState.snapshotId =
                some (snapshot.id sha256))
  | .error _ => True

/-- The request carries no snapshot whose packs a newer one has taken over. -/
def Settles (world : SyncWorld) (request : Request) : Prop :=
  SettledIn sha256 world.db (checkRequest sha256 secret request)

instance (snapshot : Snapshot) : Decidable (snapshot.Consistent sha256) := by
  unfold Snapshot.Consistent
  infer_instance

instance decidableSettledIn (db : Database) :
    (checked : Except Response Snapshot) →
      Decidable (SettledIn sha256 db checked)
  | .ok _ => inferInstanceAs (Decidable (_ → _ ∧ _))
  | .error _ => isTrue trivial

instance (world : SyncWorld) (request : Request) :
    Decidable (Settles sha256 secret world request) :=
  decidableSettledIn sha256 world.db _

/-- What is stored comes from accepted snapshots. -/
structure SyncWorld.Sound (world : SyncWorld) : Prop where
  snapshots : ∀ id payloadSha256,
    world.db.snapshots id = some payloadSha256 → payloadSha256 = id ∧
      ∃ snapshot ∈ world.accepted, snapshot.id sha256 = id ∧
        snapshot.bindable sha256 = true
  states : ∀ key state, world.db.states key = some state →
    ∃ snapshot ∈ world.accepted, (key, state) ∈ snapshot.entries sha256

variable {sha256 secret} {world : SyncWorld} {request : Request}
  {snapshot : Snapshot}

theorem post_refused {response : Response}
    (h : checkRequest sha256 secret request = .error response) :
    world.post sha256 secret request = world := by
  simp [SyncWorld.post, postSnapshots, h]

theorem post_cases (hsound : world.Sound sha256)
    (h : checkRequest sha256 secret request = .ok snapshot) :
    ((world.db.snapshots (snapshot.id sha256)).isSome = true ∧
      world.post sha256 secret request =
        ⟨world.db, snapshot :: world.accepted⟩) ∨
    (world.db.snapshots (snapshot.id sha256) = none ∧
      snapshot.bindable sha256 = false ∧
      world.post sha256 secret request = world) ∨
    (world.db.snapshots (snapshot.id sha256) = none ∧
      snapshot.bindable sha256 = true ∧
      world.post sha256 secret request =
        ⟨{ snapshots := Function.update world.db.snapshots
              (snapshot.id sha256) (some (snapshot.id sha256))
           states := (snapshot.entries sha256).foldl upsert world.db.states },
          snapshot :: world.accepted⟩) := by
  simp only [SyncWorld.post, postSnapshots, h, storeSnapshot]
  cases hstored : world.db.snapshots (snapshot.id sha256) with
  | some payloadSha256 =>
      have hsame := (hsound.snapshots _ _ hstored).1
      simp [hsame, Response.isOk]
  | none =>
      cases hbind : snapshot.bindable sha256 with
      | true => simp [Response.isOk]
      | false => simp [Response.isOk]

section

variable {entries : List (PackKey × PackState)}
  (states : PackKey → Option PackState) {key : PackKey}

theorem foldl_upsert_of_not_mem (h : ∀ entry ∈ entries, entry.1 ≠ key) :
    entries.foldl upsert states key = states key := by
  induction entries generalizing states with
  | nil => rfl
  | cons entry rest ih =>
      rw [List.foldl_cons,
        ih _ fun other hother => h other (List.mem_cons_of_mem _ hother),
        upsert,
        Function.update_of_ne (h entry List.mem_cons_self).symm]

theorem foldl_upsert_mem {state : PackState}
    (h : entries.foldl upsert states key = some state) :
    (key, state) ∈ entries ∨ states key = some state := by
  induction entries generalizing states with
  | nil => exact Or.inr h
  | cons entry rest ih =>
      rcases ih _ h with hmem | hstate
      · exact Or.inl (List.mem_cons_of_mem _ hmem)
      · by_cases hkey : key = entry.1
        · subst hkey
          rw [upsert, Function.update_self] at hstate
          cases hstate
          exact Or.inl List.mem_cons_self
        · rw [upsert, Function.update_of_ne hkey] at hstate
          exact Or.inr hstate

theorem foldl_upsert_of_mem {entry : PackKey × PackState}
    (hmem : entry ∈ entries)
    (hsame : ∀ other ∈ entries, other.1 = entry.1 → other.2 = entry.2) :
    entries.foldl upsert states entry.1 = some entry.2 := by
  induction entries generalizing states with
  | nil => cases hmem
  | cons first rest ih =>
      by_cases hrest : ∃ other ∈ rest, other.1 = entry.1
      · obtain ⟨other, hother, hkey⟩ := hrest
        have hstate := hsame other (List.mem_cons_of_mem _ hother) hkey
        have heq : other = entry := Prod.ext hkey hstate
        apply ih _ (heq ▸ hother)
        exact fun row hrow => hsame row (List.mem_cons_of_mem _ hrow)
      · have hnot : ∀ other ∈ rest, other.1 ≠ entry.1 :=
          fun other hother hkey => hrest ⟨other, hother, hkey⟩
        have hfirst : entry = first := by
          rcases List.mem_cons.mp hmem with heq | hold
          · exact heq
          · exact absurd rfl (hnot entry hold)
        rw [List.foldl_cons, foldl_upsert_of_not_mem _ hnot, upsert, hfirst,
          Function.update_self]

end

theorem SyncWorld.Sound.post (hsound : world.Sound sha256)
    (request : Request) : (world.post sha256 secret request).Sound sha256 := by
  cases hcheck : checkRequest sha256 secret request with
  | error response =>
      rw [post_refused hcheck]
      exact hsound
  | ok snapshot =>
      have hkeep : ∀ {P : Snapshot → Prop},
          (∃ t ∈ world.accepted, P t) →
          ∃ t ∈ snapshot :: world.accepted, P t := by
        rintro P ⟨t, ht, hP⟩
        exact ⟨t, List.mem_cons_of_mem _ ht, hP⟩
      rcases post_cases hsound hcheck with ⟨_, heq⟩ | ⟨_, _, heq⟩ |
        ⟨_, hbind, heq⟩
      · rw [heq]
        exact ⟨fun id payload hid => ⟨(hsound.snapshots id payload hid).1,
            hkeep (hsound.snapshots id payload hid).2⟩,
          fun key state hkey => hkeep (hsound.states key state hkey)⟩
      · rw [heq]
        exact hsound
      · rw [heq]
        constructor
        case snapshots =>
          intro id payload hid
          by_cases hsame : id = snapshot.id sha256
          · rw [hsame] at hid
            dsimp only at hid
            rw [Function.update_self] at hid
            cases hid
            exact ⟨hsame.symm, snapshot, List.mem_cons_self, hsame.symm,
              hbind⟩
          · dsimp only at hid
            rw [Function.update_of_ne hsame] at hid
            exact ⟨(hsound.snapshots id payload hid).1,
              hkeep (hsound.snapshots id payload hid).2⟩
        case states =>
          intro key state hkey
          rcases foldl_upsert_mem _ hkey with hnew | hold
          · exact ⟨snapshot, List.mem_cons_self, hnew⟩
          · exact hkeep (hsound.states key state hold)

theorem inEffect_cons {db : Database} {snapshot : Snapshot}
    {accepted : List Snapshot} :
    (SyncWorld.mk db (snapshot :: accepted)).InEffect sha256 ↔
      (∀ entry ∈ snapshot.entries sha256,
        db.states entry.1 = some entry.2) ∧
      ∀ later old earlier, accepted = later ++ old :: earlier →
        ∀ entry ∈ old.entries sha256,
          (∀ other ∈ later, ∀ row ∈ other.entries sha256,
            row.1 ≠ entry.1) →
          (∀ row ∈ snapshot.entries sha256, row.1 ≠ entry.1) →
          db.states entry.1 = some entry.2 := by
  constructor
  · intro h
    constructor
    · intro entry hentry
      exact h [] snapshot accepted rfl entry hentry nofun
    · intro later old earlier hsplit entry hentry hlater hsnapshot
      apply h (snapshot :: later) old earlier _ entry hentry
      · intro other hother
        rcases List.mem_cons.mp hother with rfl | hold
        · exact hsnapshot
        · exact hlater other hold
      · rw [hsplit]
        rfl
  · rintro ⟨hnew, hold⟩ later old earlier hsplit entry hentry hlater
    cases later with
    | nil =>
        cases hsplit
        exact hnew entry hentry
    | cons first later =>
        obtain ⟨rfl, hrest⟩ := List.cons.inj hsplit
        exact hold later old earlier hrest entry hentry
          (fun other hother => hlater other (List.mem_cons_of_mem _ hother))
          (hlater snapshot List.mem_cons_self)

def SyncWorld.newestRows (sha256 : List Char → String) (world : SyncWorld) :
    List (PackKey × PackState) :=
  match world.accepted with
  | [] => []
  | snapshot :: _ => snapshot.entries sha256

theorem SyncWorld.InEffect.newest (h : world.InEffect sha256) :
    ∀ entry ∈ world.newestRows sha256,
      world.db.states entry.1 = some entry.2 := by
  obtain ⟨db, accepted⟩ := world
  cases accepted with
  | nil => nofun
  | cons snapshot earlier => exact (inEffect_cons.mp h).1

theorem consistent_of_held {states : PackKey → Option PackState}
    (h : ∀ entry ∈ snapshot.entries sha256, states entry.1 = some entry.2) :
    snapshot.Consistent sha256 := by
  intro entry hentry other hother hkey
  have hone := h entry hentry
  have htwo := h other hother
  rw [hkey, hone] at htwo
  exact (Option.some.inj htwo).symm

/-- One request leaves accepted snapshots in effect iff it settles. -/
theorem post_inEffect_iff (hsha : Function.Injective sha256)
    (hsound : world.Sound sha256) (heffect : world.InEffect sha256) :
    (world.post sha256 secret request).InEffect sha256 ↔
      Settles sha256 secret world request := by
  unfold Settles
  cases hcheck : checkRequest sha256 secret request with
  | error response =>
      rw [post_refused hcheck]
      exact iff_of_true heffect trivial
  | ok snapshot =>
      dsimp only [SettledIn]
      rcases post_cases hsound hcheck with ⟨hstored, heq⟩ |
        ⟨hnew, hbind, heq⟩ | ⟨hnew, hbind, heq⟩
      · obtain ⟨payload, hpayload⟩ := Option.isSome_iff_exists.mp hstored
        obtain ⟨_, known, _, hid, hbind⟩ := hsound.snapshots _ _ hpayload
        have hbindable : snapshot.bindable sha256 = true := by
          rw [(Snapshot.eq_of_id hsha hid.symm).2, hbind]
        rw [heq, inEffect_cons]
        constructor
        · rintro ⟨hheld, _⟩ _
          refine ⟨consistent_of_held hheld, ?_⟩
          intro _ entry hentry
          rw [hheld entry hentry, Option.map_some,
            Snapshot.entries_snapshotId sha256 hentry]
        · intro hsettles
          obtain ⟨hconsistent, htable⟩ := hsettles hbindable
          constructor
          · intro entry hentry
            obtain ⟨state, hstate, hfrom⟩ :=
              Option.map_eq_some_iff.mp (htable hstored entry hentry)
            obtain ⟨origin, _, hrow⟩ := hsound.states _ _ hstate
            have hsame : origin.id sha256 = snapshot.id sha256 := by
              rw [← Snapshot.entries_snapshotId sha256 hrow, hfrom]
            rw [(Snapshot.eq_of_id hsha hsame).1] at hrow
            have hsays : state = entry.2 :=
              hconsistent entry hentry _ hrow rfl
            rw [hstate, hsays]
          · intro later old earlier hsplit entry hentry hlater _
            exact heffect later old earlier hsplit entry hentry hlater
      · rw [heq, hbind]
        exact iff_of_true heffect fun h => nomatch h
      · rw [heq, inEffect_cons]
        constructor
        · rintro ⟨hheld, _⟩ _
          refine ⟨consistent_of_held hheld, ?_⟩
          intro hstored
          rw [hnew] at hstored
          cases hstored
        · intro hsettles
          obtain ⟨hconsistent, _⟩ := hsettles hbind
          constructor
          · intro entry hentry
            exact foldl_upsert_of_mem _ hentry (hconsistent entry hentry)
          · intro later old earlier hsplit entry hentry hlater hother
            exact (foldl_upsert_of_not_mem _ hother).trans
              (heffect later old earlier hsplit entry hentry hlater)

def emptyWorld : SyncWorld :=
  { db := { snapshots := fun _ => none, states := fun _ => none } }

/-- Accepted snapshots stay in effect until replaced iff all requests settle. -/
theorem snapshots_in_effect_iff (hsha : Function.Injective sha256)
    (requests : List Request) :
    Throughout (syncStep sha256 secret)
        (fun world request =>
          (world.post sha256 secret request).InEffect sha256)
        emptyWorld requests ↔
      Throughout (syncStep sha256 secret) (Settles sha256 secret)
        emptyWorld requests := by
  apply throughout_iff fun world =>
    world.Sound sha256 ∧ world.InEffect sha256
  · rintro world request ⟨hsound, heffect⟩
    exact post_inEffect_iff hsha hsound heffect
  · rintro world request next ⟨hsound, _⟩ hlaw hstep
    cases hstep
    exact ⟨hsound.post request, hlaw⟩
  · refine ⟨⟨nofun, nofun⟩, ?_⟩
    intro later snapshot earlier hsplit
    cases later <;> cases hsplit

end Runs

namespace SnapshotWitness

def snapshotOf (state : String) : Snapshot :=
  ⟨"codex", [.dict [("capability_id", .str "tdd-workflow"),
    ("version", .atom schemaVersion), ("state", .str state),
    ("definition_hash", .str (String.ofList (List.replicate 64 'a'))),
    ("provenance", .dict []), ("decision", .dict [])]]⟩

def digests : List (List Char × String) :=
  [((snapshotOf "pilot").payloadJson,
      "f6e71e47ae146178dd8832f954f2e92a7780135cd37ba57244dd54d5ee3be120"),
    ((snapshotOf "active").payloadJson,
      "08dad7f6f164a3449cf74bfb0217fbfde376039d01a35d2edd4496b832f0043a")]

def upload (state : String) : Request :=
  { authorization := some "Bearer token"
    body := some (.dict
      [("snapshot_id", .str ((snapshotOf state).id (knownDigest digests))),
        ("schema_version", .atom schemaVersion), ("executor_id", .str "codex"),
        ("packs", .list (snapshotOf state).packs)]) }

def after (requests : List Request) : SyncWorld :=
  requests.foldl (SyncWorld.post (knownDigest digests) "token") emptyWorld

def packKey : PackKey := ⟨"tdd-workflow", schemaVersion, "codex"⟩

/-- The pilot again after the active one: answered ok, and the active one shown.
-/
theorem repeated_upload_no_effect :
    (postSnapshots (knownDigest digests) "token"
        (after [upload "pilot", upload "active"]).db
        (upload "pilot")).1.isOk = true ∧
      ¬(after [upload "pilot", upload "active", upload "pilot"]).InEffect
        (knownDigest digests) := by
  refine ⟨by decide +kernel, ?_⟩
  intro heffect
  have hrows := heffect.newest
  revert hrows
  decide +kernel

theorem in_order_in_effect :
    Throughout (syncStep (knownDigest digests) "token")
      (fun world request =>
        (world.post (knownDigest digests) "token" request).InEffect
          (knownDigest digests))
      emptyWorld [upload "pilot", upload "active"] :=
  (snapshots_in_effect_iff (knownDigest_injective (by decide +kernel))
    [upload "pilot", upload "active"]).mpr (by decide +kernel)

end SnapshotWitness

end Worker
