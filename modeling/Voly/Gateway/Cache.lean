/-
The response cache: entries in memory and on disk, and chat calls that share
them in any interleaving.
-/
import Voly.Gateway.Chat
import Mathlib.Data.List.MinMax

namespace Voly.Gateway

open Python Interaction

variable {I C : Type}

/-- The settings of a `CacheConfig`. -/
structure CacheConfig where
  ttlSeconds : Int := 3600
  maxEntries : Int := 1000
  persistDir : String := ""

/-- A stored result.  Who stored it is not written to the cache, it only lets
an answer be traced. -/
structure CacheEntry (I : Type) where
  expiresAt : Rat
  value : Response
  storedBy : I

/-- What one access meets: the clock, and the file operations that go through.
-/
structure Access where
  now : Rat := 0
  later : Rat := 0
  readable : Bool := true
  removable : Bool := true
  writable : Bool := true

/-- The entries of one gateway and those in the files of its directory. -/
structure Entries (I : Type) where
  memory : Dict (CacheEntry I)
  files : Dict (CacheEntry I)

/-- Look among the files, and keep what is found in memory. -/
def CacheConfig.getFile (config : CacheConfig) (access : Access)
    (key : String) (entries : Entries I) :
    Option (CacheEntry I) × Entries I :=
  if config.persistDir = "" ∨ access.readable = false then (none, entries)
  else
    match entries.files.get? key with
    | none => (none, entries)
    | some entry =>
        if access.later < entry.expiresAt then
          (some entry,
            { entries with memory := entries.memory.set key entry })
        else if access.removable then
          (none, { entries with files := entries.files.erase key })
        else (none, entries)

def CacheConfig.get (config : CacheConfig) (access : Access) (key : String)
    (entries : Entries I) : Option (CacheEntry I) × Entries I :=
  match entries.memory.get? key with
  | none => config.getFile access key entries
  | some entry =>
      if access.now < entry.expiresAt then (some entry, entries)
      else config.getFile access key
        { entries with memory := entries.memory.erase key }

/-- A full memory gives up the entry that expires first. -/
def CacheConfig.makeRoom (config : CacheConfig)
    (memory : Dict (CacheEntry I)) : Except String (Dict (CacheEntry I)) :=
  if config.maxEntries ≤ (memory.length : Int) then
    match List.argmin (fun item => item.2.expiresAt) memory with
    | some oldest => .ok (memory.erase oldest.1)
    | none => .error "min() arg is an empty sequence"
  else .ok memory

def CacheConfig.set (config : CacheConfig) (access : Access) (key : String)
    (value : Response) (storedBy : I) (entries : Entries I) :
    Except String (Entries I) :=
  match config.makeRoom entries.memory with
  | .error e => .error e
  | .ok memory =>
      let entry : CacheEntry I :=
        { expiresAt := access.now + config.ttlSeconds, value, storedBy }
      .ok
        { memory := memory.set key entry
          files :=
            if config.persistDir ≠ "" ∧ access.writable = true then
              entries.files.set key entry
            else entries.files }

/-- All entries in memory satisfy `P`, all those on disk satisfy `F`. -/
structure Entries.All (P F : String → CacheEntry I → Prop)
    (entries : Entries I) : Prop where
  memory : ∀ key entry, (key, entry) ∈ entries.memory → P key entry
  files : ∀ key entry, (key, entry) ∈ entries.files → F key entry

section All

variable {P F : String → CacheEntry I → Prop} {entries : Entries I}
  (config : CacheConfig) (access : Access) (key : String)

theorem getFile_all (hFP : ∀ key entry, F key entry → P key entry)
    (h : entries.All P F) :
    (config.getFile access key entries).2.All P F ∧
      ∀ entry, (config.getFile access key entries).1 = some entry →
        P key entry := by
  unfold CacheConfig.getFile
  split
  · exact ⟨h, fun entry hentry => nomatch hentry⟩
  · split
    · exact ⟨h, fun entry hentry => nomatch hentry⟩
    · next found hfound =>
        have hP : P key found :=
          hFP key found (h.files key found (Dict.mem_of_get? hfound))
        split
        · refine ⟨⟨?_, h.files⟩, ?_⟩
          · intro other entry hentry
            rcases Dict.mem_set hentry with hentry | hentry
            · cases hentry
              exact hP
            · exact h.memory other entry hentry
          · intro entry hentry
            cases hentry
            exact hP
        · split
          · refine ⟨⟨h.memory, ?_⟩, fun entry hentry => nomatch hentry⟩
            intro other entry hentry
            exact h.files other entry (Dict.mem_erase hentry)
          · exact ⟨h, fun entry hentry => nomatch hentry⟩

theorem get_all (hFP : ∀ key entry, F key entry → P key entry)
    (h : entries.All P F) :
    (config.get access key entries).2.All P F ∧
      ∀ entry, (config.get access key entries).1 = some entry →
        P key entry := by
  unfold CacheConfig.get
  split
  · exact getFile_all config access key hFP h
  · next found hfound =>
      split
      · refine ⟨h, ?_⟩
        intro entry hentry
        cases hentry
        exact h.memory key found (Dict.mem_of_get? hfound)
      · apply getFile_all config access key hFP
        refine ⟨?_, h.files⟩
        intro other entry hentry
        exact h.memory other entry (Dict.mem_erase hentry)

theorem makeRoom_mem {memory memory' : Dict (CacheEntry I)}
    (h : config.makeRoom memory = .ok memory') : memory' ⊆ memory := by
  unfold CacheConfig.makeRoom at h
  split at h
  · split at h
    · cases h
      exact fun item hitem => Dict.mem_erase hitem
    · cases h
  · cases h
    exact List.Subset.refl _

theorem set_all {value : Response} {storedBy : I}
    {entries' : Entries I} (h : entries.All P F)
    (hP : ∀ expiresAt, P key { expiresAt, value, storedBy })
    (hF : config.persistDir ≠ "" →
      ∀ expiresAt, F key { expiresAt, value, storedBy })
    (hset : config.set access key value storedBy entries = .ok entries') :
    entries'.All P F := by
  unfold CacheConfig.set at hset
  split at hset
  · cases hset
  · next memory hmemory =>
      cases hset
      constructor
      · intro other entry hentry
        rcases Dict.mem_set hentry with hentry | hentry
        · cases hentry
          exact hP _
        · exact h.memory other entry (makeRoom_mem config hmemory hentry)
      · intro other entry hentry
        dsimp only at hentry
        split at hentry
        · next hdir =>
            rcases Dict.mem_set hentry with hentry | hentry
            · cases hentry
              exact hF hdir.1 _
            · exact h.files other entry hentry
        · exact h.files other entry hentry

end All

structure CacheUser (C : Type) where
  gateway : AIGateway
  request : Request
  cache : C

def CacheUser.scope (user : CacheUser C) : String :=
  orElse user.request.cacheScope user.gateway.cacheScope

/-- The caches in memory and on disk, with what each call asks for, has stored
and was answered with. -/
structure CacheWorld (I C : Type) where
  memory : C → Dict (CacheEntry I)
  disk : String → Dict (CacheEntry I)
  accesses : Nat := 0
  asked : I → Request
  stored : List (I × Response) := []
  source : I → Option I

section World

variable [DecidableEq I] [DecidableEq C] (configs : C → CacheConfig)
  (users : I → CacheUser C) (access : Nat → Access)

def CacheWorld.entries (world : CacheWorld I C) (cache : C) : Entries I where
  memory := world.memory cache
  files := world.disk (configs cache).persistDir

def CacheWorld.setEntries (world : CacheWorld I C) (cache : C)
    (entries : Entries I) : CacheWorld I C :=
  { world with
    memory := Function.update world.memory cache entries.memory
    disk := Function.update world.disk (configs cache).persistDir
      entries.files
    accesses := world.accesses + 1 }

/-- Call `i` looks up a key. -/
def CacheWorld.lookup (world : CacheWorld I C) (i : I) (key : String) :
    Option Response × CacheWorld I C :=
  let cache := (users i).cache
  let out := (configs cache).get (access world.accesses) key
    (world.entries configs cache)
  match out.1 with
  | none => (none, world.setEntries configs cache out.2)
  | some entry =>
      (some entry.value,
        { world.setEntries configs cache out.2 with
          source := Function.update world.source i (some entry.storedBy) })

/-- Call `i` stores a result. -/
def CacheWorld.store (world : CacheWorld I C) (i : I) (key : String)
    (value : Response) : Except String Unit × CacheWorld I C :=
  let cache := (users i).cache
  match (configs cache).set (access world.accesses) key value i
      (world.entries configs cache) with
  | .error e => (.error e, world)
  | .ok entries =>
      (.ok (),
        { world.setEntries configs cache entries with
          stored := (i, value) :: world.stored })

def CacheWorld.serve (i : I) :
    Serve GatewayOp GatewayReply (CacheWorld I C) := fun world op reply =>
  match op, reply with
  | .cacheGet key, _ => world.lookup configs users access i key
  | .cacheSet key value, _ => world.store configs users access i key value
  | .warnRerouted _ alternative, reply =>
      (reply, { world with
        asked := Function.update world.asked i
          ((world.asked i).reroutedTo alternative) })
  | _, reply => (reply, world)

/-- The calls at their start, with empty caches. -/
def sharingCalls (sha256 : List Char → String) :
    Pool GatewayOp GatewayReply I (CacheWorld I C)
      (fun _ => Except String Response × Unit) where
  world :=
    { memory := fun _ => []
      disk := fun _ => []
      asked := fun i => (users i).request
      source := fun _ => none }
  procs i := chat sha256 (users i).gateway (users i).request ()

/-- One cache object, or two with one directory. -/
def Shares (c c' : C) : Prop :=
  c = c' ∨ ((configs c).persistDir ≠ "" ∧
    (configs c).persistDir = (configs c').persistDir)

end World

end Voly.Gateway
