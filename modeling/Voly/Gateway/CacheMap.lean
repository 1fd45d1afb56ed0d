/-
The response cache as a bounded map whose entries expire, over any operations
and any files.
-/
import Voly.Interaction.Steps
import Voly.Gateway.Cache

namespace Voly.Gateway

open Python Interaction

/-- A number that `json.loads` returns. -/
inductive Number
  | finite (value : Rat)
  | infinity
  | negInfinity
  | nan
deriving DecidableEq

/-- What `json.loads` returns; the keys of an object are distinct. -/
inductive Loaded
  | null
  | bool (value : Bool)
  | num (value : Number)
  | str (value : String)
  | arr (items : List Loaded)
  | obj (items : List (String × Loaded))

/-- No JSON text, one that is nested too deeply, or the value it stands for. -/
inductive FileText
  | broken
  | tooDeep
  | json (value : Loaded)

/-- The exceptions that an operation meets. -/
inductive Raised
  | valueError
  | typeError
  | recursionError
deriving DecidableEq

/-- `expires_at, value = loaded`. -/
def Loaded.unpack : Loaded → Except Raised (Loaded × Loaded)
  | .arr [first, second] => .ok (first, second)
  | .arr _ => .error .valueError
  | .obj [first, second] => .ok (.str first.1, .str second.1)
  | .obj _ => .error .valueError
  | .str text =>
      match text.toList with
      | [first, second] => .ok (.str first.toString, .str second.toString)
      | _ => .error .valueError
  | .null => .error .typeError
  | .bool _ => .error .typeError
  | .num _ => .error .typeError

def Loaded.moment : Loaded → Except Raised (Option (WithTop Rat))
  | .num (.finite value) => .ok (some value)
  | .num .infinity => .ok (some ⊤)
  | .num .negInfinity => .ok none
  | .num .nan => .ok none
  | .bool value => .ok (some (if value then 1 else 0))
  | .null => .error .typeError
  | .str _ => .error .typeError
  | .arr _ => .error .typeError
  | .obj _ => .error .typeError

/-- An entry of the cache: until when it is served, and what. -/
abbrev Timed := WithTop Rat × Loaded

/-- What a lookup finds in a file. -/
inductive Found
  | nothing
  | stale
  | fresh (entry : Timed)

/-- `expires_at, value = json.loads(text)` and `now < expires_at`, with
`ValueError` caught. -/
def FileText.look (now : Rat) : FileText → Except Raised Found
  | .broken => .ok .nothing
  | .tooDeep => .error .recursionError
  | .json loaded =>
      match loaded.unpack with
      | .error .valueError => .ok .nothing
      | .error e => .error e
      | .ok (expiresAt, value) =>
          match expiresAt.moment with
          | .error e => .error e
          | .ok none => .ok .stale
          | .ok (some expiry) =>
              .ok (if now < expiry then .fresh (expiry, value) else .stale)

/-- What one operation meets, and what a failed write leaves in the file. -/
structure FileAccess extends Access where
  left : Option FileText := none

/-- The entries in memory, and the files. -/
structure ResponseCache where
  store : Dict Timed := []
  files : String → Option FileText

inductive CacheOp
  | get (key : String)
  | set (key value : String)
  | invalidate (key : String)
  | flush

namespace ResponseCache

variable (config : CacheConfig) (path : String → Option String)
  (access : FileAccess) (cache : ResponseCache)

def setFile (file : String) (text : Option FileText) : ResponseCache :=
  { cache with files := Function.update cache.files file text }

/-- The text that `get` reads for a key, if there is one.  A key for which no
path can be formed has no file. -/
def fileText (key : String) : Option FileText :=
  if config.persistDir = "" ∨ access.readable = false then none
  else (path key).bind cache.files

/-- `get` for a key that is not in memory. -/
def getFile (key : String) : Except Raised (Option Loaded) × ResponseCache :=
  match cache.fileText config path access key with
  | none => (.ok none, cache)
  | some text =>
      match text.look access.later with
      | .error e => (.error e, cache)
      | .ok .nothing => (.ok none, cache)
      | .ok .stale =>
          (.ok none,
            if access.removable then
              ((path key).map fun file => cache.setFile file none).getD cache
            else cache)
      | .ok (.fresh entry) =>
          (.ok (some entry.2),
            { cache with store := cache.store.set key entry })

def get (key : String) : Except Raised (Option Loaded) × ResponseCache :=
  match cache.store.get? key with
  | none => cache.getFile config path access key
  | some entry =>
      if access.now < entry.1 then (.ok (some entry.2), cache)
      else
        { cache with store := cache.store.erase key }.getFile config path
          access key

/-- A full memory gives up the entry that expires first. -/
def makeRoom (store : Dict Timed) : Except Raised (Dict Timed) :=
  if config.maxEntries ≤ (store.length : Int) then
    match List.argmin (fun item => item.2.1) store with
    | some oldest => .ok (store.erase oldest.1)
    | none => .error .valueError
  else .ok store

/-- The entry that `set` stores. -/
def newEntry (value : String) : Timed :=
  (((access.now + config.ttlSeconds : Rat) : WithTop Rat), .str value)

/-- The text that `set` writes. -/
def entryText (value : String) : FileText :=
  .json (.arr [.num (.finite (access.now + config.ttlSeconds)), .str value])

/-- Write or remove the file of a key; the `ValueError` of a bad path is not
caught. -/
def onFile (key : String) (change : String → ResponseCache) :
    Except Raised (Option Loaded) × ResponseCache :=
  if config.persistDir = "" then (.ok none, cache)
  else
    match path key with
    | none => (.error .valueError, cache)
    | some file => (.ok none, change file)

def set (key value : String) :
    Except Raised (Option Loaded) × ResponseCache :=
  match makeRoom config cache.store with
  | .error e => (.error e, cache)
  | .ok store =>
      let stored : ResponseCache :=
        { cache with store := store.set key (newEntry config access value) }
      stored.onFile config path key fun file =>
        stored.setFile file
          (if access.writable then some (entryText config access value)
            else access.left)

def invalidate (key : String) :
    Except Raised (Option Loaded) × ResponseCache :=
  let dropped : ResponseCache :=
    { cache with store := cache.store.erase key }
  dropped.onFile config path key fun file =>
    if access.removable then dropped.setFile file none else dropped

def flush : ResponseCache :=
  { cache with store := [] }

/-- What an operation returns or raises, and the cache after it. -/
def perform : CacheOp → Except Raised (Option Loaded) × ResponseCache
  | .get key => cache.get config path access key
  | .set key value => cache.set config path access key value
  | .invalidate key => cache.invalidate config path access key
  | .flush => (.ok none, cache.flush)

end ResponseCache

/-- An operation of the cache, or a file that another process writes or
removes. -/
inductive CacheEvent
  | perform (op : CacheOp) (access : FileAccess)
  | foreign (file : String) (text : Option FileText)

/-- The cache, and for each key the latest `set` not flushed or invalidated. -/
structure CacheHistory where
  cache : ResponseCache
  latest : String → Option Timed := fun _ => none

section History

variable (config : CacheConfig) (path : String → Option String)

def latestAfter (access : FileAccess) (latest : String → Option Timed) :
    CacheOp → String → Option Timed
  | .get _ => latest
  | .set key value =>
      Function.update latest key
        (some (ResponseCache.newEntry config access value))
  | .invalidate key => Function.update latest key none
  | .flush => fun _ => none

def CacheHistory.after (history : CacheHistory) : CacheEvent → CacheHistory
  | .perform op access =>
      { cache := (history.cache.perform config path access op).2
        latest := latestAfter config access history.latest op }
  | .foreign file text =>
      { history with cache := history.cache.setFile file text }

def cacheStep (history : CacheHistory) (event : CacheEvent) :
    Option CacheHistory :=
  some (history.after config path event)

/-- A bounded map whose entries expire; a lookup returns only the latest `set`.
-/
structure Lawful (history : CacheHistory) (op : CacheOp)
    (access : FileAccess) : Prop where
  returns : ∃ found,
    (history.cache.perform config path access op).1 = .ok found
  bounded :
    ((history.cache.perform config path access op).2.store.length : Int) ≤
      config.maxEntries
  latest : ∀ key value, op = .get key →
    (history.cache.perform config path access op).1 = .ok (some value) →
    ∃ expiry : WithTop Rat, history.latest key = some (expiry, value) ∧
      (access.now < expiry ∨ access.later < expiry)

/-- What an operation of another process does is no operation of the cache. -/
def LawfulEvent (history : CacheHistory) : CacheEvent → Prop
  | .perform op access => Lawful config path history op access
  | .foreign _ _ => True

/-- The key's file can be read and holds the latest unexpired `set`. -/
def FileInStep (history : CacheHistory) (store : Dict Timed) (key : String)
    (access : FileAccess) : Prop :=
  ∀ text, history.cache.fileText config path access key = some text →
    ∃ found, text.look access.later = .ok found ∧
      ∀ entry, found = .fresh entry → history.latest key = some entry ∧
        (store.length : Int) < config.maxEntries

/-- A store has room and a path; a lookup past memory meets a file in step. -/
def InStep (history : CacheHistory) : CacheEvent → Prop
  | .perform (.get key) access =>
      match history.cache.store.get? key with
      | none =>
          FileInStep config path history history.cache.store key access
      | some entry =>
          access.now < entry.1 ∨
            FileInStep config path history (history.cache.store.erase key) key
              access
  | .perform (.set key _) _ =>
      0 < config.maxEntries ∧ (config.persistDir = "" ∨ path key ≠ none)
  | .perform (.invalidate key) _ =>
      config.persistDir = "" ∨ path key ≠ none
  | .perform .flush _ => True
  | .foreign _ _ => True

end History

/-- Memory keeps the bound, and each of its entries is the latest of its
key. -/
structure Kept (config : CacheConfig) (latest : String → Option Timed)
    (store : Dict Timed) : Prop where
  bounded : (store.length : Int) ≤ config.maxEntries
  known : ∀ key entry, store.get? key = some entry → latest key = some entry

section Operation

variable {config : CacheConfig} {latest : String → Option Timed}
  {store : Dict Timed} {key : String}

section

variable (h : Kept config latest store)
include h

theorem Kept.erase (key : String) :
    Kept config latest (store.erase key) where
  bounded := by
    have hle : (store.erase key).length ≤ store.length :=
      List.length_filter_le _ _
    have hbound := h.bounded
    omega
  known other entry hentry := by
    rw [Dict.get?_erase] at hentry
    split at hentry
    · cases hentry
    · exact h.known other entry hentry

theorem Kept.warm {entry : Timed} (hlatest : latest key = some entry)
    (hroom : (store.length : Int) < config.maxEntries) :
    Kept config latest (store.set key entry) where
  bounded := by
    have hle := Dict.length_set_le store key entry
    omega
  known other found hfound := by
    rw [Dict.get?_set] at hfound
    split at hfound
    · next heq =>
        cases hfound
        rw [← heq]
        exact hlatest
    · exact h.known other found hfound

theorem Kept.renew (key : String) (entry : Timed)
    (hroom : (store.length : Int) < config.maxEntries) :
    Kept config (Function.update latest key (some entry))
      (store.set key entry) where
  bounded := by
    have hle := Dict.length_set_le store key entry
    omega
  known other found hfound := by
    rw [Dict.get?_set] at hfound
    split at hfound
    · next heq =>
        cases hfound
        rw [← heq]
        exact Function.update_self _ _ _
    · next hne =>
        rw [Function.update_of_ne (Ne.symm hne)]
        exact h.known other found hfound

theorem Kept.drop (key : String) :
    Kept config (Function.update latest key none) (store.erase key) where
  bounded := (h.erase key).bounded
  known other found hfound := by
    rw [Dict.get?_erase] at hfound
    split at hfound
    · cases hfound
    · next hne =>
        rw [Function.update_of_ne (Ne.symm hne)]
        exact h.known other found hfound

end

theorem kept_nil (hmax : 0 ≤ config.maxEntries)
    (latest : String → Option Timed) : Kept config latest [] :=
  ⟨hmax, nofun⟩

theorem makeRoom_kept (h : Kept config latest store)
    (hmax : 0 < config.maxEntries) :
    ∃ room, ResponseCache.makeRoom config store = .ok room ∧
      Kept config latest room ∧ (room.length : Int) < config.maxEntries := by
  unfold ResponseCache.makeRoom
  split
  · next hfull =>
      cases holdest : List.argmin (fun item => item.2.1) store with
      | none =>
          rw [List.argmin_eq_none] at holdest
          subst holdest
          rw [List.length_nil] at hfull
          omega
      | some oldest =>
          have hlt : (store.erase oldest.1).length < store.length :=
            Dict.length_erase_lt (List.argmin_mem holdest)
          have hbound := h.bounded
          exact ⟨_, rfl, h.erase oldest.1, by omega⟩
  · next hroom => exact ⟨store, rfl, h, by omega⟩

theorem look_fresh {now : Rat} {text : FileText} {entry : Timed}
    (h : text.look now = .ok (.fresh entry)) : now < entry.1 := by
  cases text with
  | broken => cases h
  | tooDeep => cases h
  | json loaded =>
      rw [FileText.look] at h
      split at h
      · cases h
      · cases h
      · split at h
        · cases h
        · cases h
        · split at h
          · next hlt =>
              cases h
              exact hlt
          · cases h

variable (path : String → Option String) (access : FileAccess)
  {cache : ResponseCache}

theorem getFile_kept (h : Kept config latest cache.store)
    (hfile : ∀ text, cache.fileText config path access key = some text →
      ∃ found, text.look access.later = .ok found ∧
        ∀ entry, found = .fresh entry → latest key = some entry ∧
          (cache.store.length : Int) < config.maxEntries) :
    Kept config latest (cache.getFile config path access key).2.store ∧
      ∃ found, (cache.getFile config path access key).1 = .ok found ∧
        ∀ value, found = some value →
          ∃ expiry : WithTop Rat, latest key = some (expiry, value) ∧
            access.later < expiry := by
  unfold ResponseCache.getFile
  cases htext : cache.fileText config path access key with
  | none => exact ⟨h, none, rfl, nofun⟩
  | some text =>
      obtain ⟨found, hlook, hfresh⟩ := hfile text htext
      dsimp only
      rw [hlook]
      cases found with
      | nothing => exact ⟨h, none, rfl, nofun⟩
      | stale =>
          refine ⟨?_, none, rfl, nofun⟩
          dsimp only
          split
          · cases path key with
            | none => exact h
            | some file => exact h
          · exact h
      | fresh entry =>
          obtain ⟨hlatest, hroom⟩ := hfresh entry rfl
          refine ⟨h.warm hlatest hroom, some entry.2, rfl, ?_⟩
          rintro _ ⟨⟩
          exact ⟨entry.1, hlatest, look_fresh hlook⟩

theorem onFile_store {change : String → ResponseCache} {store : Dict Timed}
    (hcache : cache.store = store)
    (hchange : ∀ file, (change file).store = store) :
    (cache.onFile config path key change).2.store = store := by
  unfold ResponseCache.onFile
  split
  · exact hcache
  · split
    · exact hcache
    · exact hchange _

theorem onFile_returns {change : String → ResponseCache}
    (hpath : config.persistDir = "" ∨ path key ≠ none) :
    (cache.onFile config path key change).1 = .ok none := by
  unfold ResponseCache.onFile
  split
  · rfl
  · next hdir =>
      have hkey := hpath.resolve_left hdir
      cases hfile : path key with
      | none => exact (hkey hfile).elim
      | some file => rfl

variable {history : CacheHistory}

theorem perform_lawful {op : CacheOp} (hmax : 0 ≤ config.maxEntries)
    (h : Kept config history.latest history.cache.store)
    (hstep : InStep config path history (.perform op access)) :
    Lawful config path history op access ∧
      Kept config (latestAfter config access history.latest op)
        (history.cache.perform config path access op).2.store := by
  cases op with
  | flush =>
      exact ⟨⟨⟨none, rfl⟩, hmax, nofun⟩, kept_nil hmax _⟩
  | invalidate key =>
      have hstore : (history.cache.perform config path access
          (.invalidate key)).2.store = history.cache.store.erase key := by
        apply onFile_store path rfl
        intro file
        dsimp only
        split
        · rfl
        · rfl
      have hkept := h.drop key
      rw [← hstore] at hkept
      exact ⟨⟨⟨none, onFile_returns path hstep⟩, hkept.bounded, nofun⟩, hkept⟩
  | set key value =>
      obtain ⟨hpositive, hpath⟩ := hstep
      obtain ⟨room, hroom, hkeptRoom, hlt⟩ := makeRoom_kept h hpositive
      let stored : ResponseCache := { history.cache with
        store := room.set key (ResponseCache.newEntry config access value) }
      have hkept : Kept config _ stored.store := hkeptRoom.renew key
        (ResponseCache.newEntry config access value) hlt
      have hperform : history.cache.perform config path access
          (.set key value) =
          stored.onFile config path key fun file =>
            stored.setFile file
              (if access.writable then
                  some (ResponseCache.entryText config access value)
                else access.left) := by
        dsimp only [ResponseCache.perform, ResponseCache.set]
        rw [hroom]
      have hstore : (history.cache.perform config path access
          (.set key value)).2.store = stored.store := by
        rw [hperform]
        exact onFile_store path rfl fun _ => rfl
      have hreturns : (history.cache.perform config path access
          (.set key value)).1 = .ok none := by
        rw [hperform]
        exact onFile_returns path hpath
      rw [← hstore] at hkept
      exact ⟨⟨⟨none, hreturns⟩, hkept.bounded, nofun⟩, hkept⟩
  | get key =>
      have hmiss : ∀ cache : ResponseCache,
          Kept config history.latest cache.store →
          history.cache.perform config path access (.get key) =
            cache.getFile config path access key →
          (∀ text, cache.fileText config path access key = some text →
            ∃ found, text.look access.later = .ok found ∧
              ∀ entry, found = .fresh entry →
                history.latest key = some entry ∧
                  (cache.store.length : Int) < config.maxEntries) →
          Lawful config path history (.get key) access ∧
            Kept config history.latest
              (history.cache.perform config path access (.get key)).2.store := by
        intro cache hcache hperform hfile
        obtain ⟨hkept, found, hfound, hvalue⟩ :=
          getFile_kept path access hcache hfile
        rw [← hperform] at hkept hfound
        refine ⟨⟨⟨found, hfound⟩, hkept.bounded, ?_⟩, hkept⟩
        rintro _ value ⟨⟩ hout
        rw [hfound] at hout
        cases hout
        obtain ⟨expiry, hlatest, hlater⟩ := hvalue value rfl
        exact ⟨expiry, hlatest, .inr hlater⟩
      cases hentry : history.cache.store.get? key with
      | none =>
          rw [InStep, hentry] at hstep
          apply hmiss history.cache h _ hstep
          dsimp only [ResponseCache.perform, ResponseCache.get]
          rw [hentry]
      | some entry =>
          rw [InStep, hentry] at hstep
          by_cases hnow : access.now < entry.1
          · have hperform : history.cache.perform config path access
                (.get key) = (.ok (some entry.2), history.cache) := by
              dsimp only [ResponseCache.perform, ResponseCache.get]
              rw [hentry]
              exact if_pos hnow
            have hkept : Kept config history.latest
                (history.cache.perform config path access (.get key)).2.store := by
              rw [hperform]
              exact h
            refine ⟨⟨⟨some entry.2, congrArg Prod.fst hperform⟩,
              hkept.bounded, ?_⟩, hkept⟩
            rintro _ value ⟨⟩ hout
            rw [hperform] at hout
            cases hout
            exact ⟨entry.1, h.known key entry hentry, .inl hnow⟩
          · apply hmiss { history.cache with
                store := history.cache.store.erase key } (h.erase key) _
              (hstep.resolve_left hnow)
            dsimp only [ResponseCache.perform, ResponseCache.get]
            rw [hentry]
            exact if_neg hnow

theorem after_kept (hmax : 0 ≤ config.maxEntries) {event : CacheEvent}
    (h : Kept config history.latest history.cache.store)
    (hstep : InStep config path history event) :
    LawfulEvent config path history event ∧
      Kept config (history.after config path event).latest
        (history.after config path event).cache.store := by
  cases event with
  | foreign file text => exact ⟨trivial, h⟩
  | perform op access => exact perform_lawful path access hmax h hstep

end Operation

/-- Operations and changes by other processes: where every operation is in step,
every one is lawful. -/
theorem cache_lawful (config : CacheConfig) (path : String → Option String)
    (hmax : 0 ≤ config.maxEntries) (files : String → Option FileText)
    (events : List CacheEvent)
    (hstep : Throughout (cacheStep config path) (InStep config path)
      { cache := { files } } events) :
    Throughout (cacheStep config path) (LawfulEvent config path)
      { cache := { files } } events := by
  apply Throughout.implies (fun history : CacheHistory =>
    Kept config history.latest history.cache.store) _ (kept_nil hmax _) hstep
  intro history event h hevent
  obtain ⟨hlawful, hkept⟩ := after_kept path hmax h hevent
  refine ⟨hlawful, ?_⟩
  rintro _ ⟨⟩
  exact hkept

namespace CacheMapWitness

def config : CacheConfig where
  maxEntries := 1
  persistDir := "cache"

def start : CacheHistory where
  cache := { files := fun _ => none }

def perform (op : CacheOp) : CacheEvent := .perform op {}

def Loaded.text? : Loaded → Option String
  | .str text => some text
  | _ => none

def history (events : List CacheEvent) : CacheHistory :=
  events.foldl (fun history event => history.after config some event) start

def invalidated : List CacheEvent :=
  [perform (.set "key" "value"), perform (.get "key"),
    perform (.invalidate "key")]

def flushed : List CacheEvent :=
  [perform (.set "key" "value"), perform .flush]

theorem invalidated_lawful :
    Throughout (cacheStep config some) (LawfulEvent config some) start
      (invalidated ++ [perform (.get "key")]) := by
  apply cache_lawful config some (by decide)
  refine ⟨⟨by decide, .inr nofun⟩, .inl (by decide +kernel), .inr nofun, ?_,
    trivial⟩
  have hgone : ((history invalidated).cache.store.get? "key").isNone = true := by
    decide +kernel
  have hunwritten : ((history invalidated).cache.fileText config some {}
      "key").isNone = true := by
    decide +kernel
  change InStep config some (history invalidated) (perform (.get "key"))
  rw [perform, InStep, Option.isNone_iff_eq_none.mp hgone]
  intro text htext
  rw [Option.isNone_iff_eq_none.mp hunwritten] at htext
  cases htext

/-- The files outlive a `flush`. -/
theorem flushed_unlawful :
    ¬Throughout (cacheStep config some) (LawfulEvent config some) start
      (flushed ++ [perform (.get "key")]) := by
  rintro ⟨_, _, hget, _⟩
  change Lawful config some (history flushed) (.get "key") {} at hget
  have hshape : ((((history flushed).cache.perform config some {}
      (.get "key")).1.toOption.bind id).bind Loaded.text?) = some "value" := by
    decide +kernel
  obtain ⟨found, hfound⟩ := hget.returns
  rw [hfound] at hshape
  cases found with
  | none => cases hshape
  | some value =>
      obtain ⟨_, hlatest, _⟩ := hget.latest "key" value rfl hfound
      cases hlatest

end CacheMapWitness

end Voly.Gateway
