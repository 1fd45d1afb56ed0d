/-
The event log of a session: timestamped rows, cut to the newest ones after each
insertion.
-/
import Voly.Python.Loops
import Voly.Python.Reorder
import Voly.Ranking.Leading

namespace Worker

open Python Ranking

/-- A row of the table `events`. -/
structure StoredEvent where
  id : Nat
  payload : List Char
  ts : Int
deriving DecidableEq

/-- `ORDER BY ts DESC`; rows of one timestamp come by ascending id. -/
def StoredEvent.Before (a b : StoredEvent) : Prop :=
  b.ts < a.ts ∨ a.ts = b.ts ∧ a.id ≤ b.id

instance : DecidableRel StoredEvent.Before := fun a b =>
  inferInstanceAs (Decidable (b.ts < a.ts ∨ a.ts = b.ts ∧ a.id ≤ b.id))

instance : Std.Total StoredEvent.Before where
  total a b := by
    unfold StoredEvent.Before
    omega

instance : IsTrans StoredEvent StoredEvent.Before where
  trans a b c hab hbc := by
    unfold StoredEvent.Before at hab hbc ⊢
    omega

/-- The table, newest row first, and the last id it has given. -/
structure AguiSession where
  events : List StoredEvent := []
  lastId : Nat := 0

def maxEvents : Nat := 200

/-- A `POST /event` with its body, or a text from a websocket. -/
inductive Arrival where
  | post (body : List Char)
  | message (text : List Char)

/-- A word or a number of JSON. -/
def isStandard (x : AtomText) : Bool :=
  ["null", "true", "false"].contains (String.ofList x.text) ||
    isJsonNumber x.text

/-- `JSON.parse`; a number stays the text that it is written in. -/
def parseEvent (text : List Char) : Option Doc :=
  (loads text).filter fun event => event.atoms.all isStandard

/-- `JSON.stringify` of the event, or the text itself.  A body that is no JSON
is refused. -/
def Arrival.payload : Arrival → Option (List Char)
  | post body => (parseEvent body).map (Doc.write false)
  | message text => some text

namespace AguiSession

/-- `persistEvent`, at the time `ts`. -/
def persistEvent (session : AguiSession) (payload : List Char) (ts : Int) :
    AguiSession :=
  let row : StoredEvent := ⟨session.lastId + 1, payload, ts⟩
  let events := row :: session.events
  let kept := (leading StoredEvent.Before maxEvents events).map StoredEvent.id
  { events := events.filter fun row => row.id ∈ kept
    lastId := session.lastId + 1 }

/-- A request or a message, at the time of the clock. -/
def receive (session : AguiSession) (arrival : Arrival × Int) : AguiSession :=
  match arrival.1.payload with
  | some payload => session.persistEvent payload arrival.2
  | none => session

/-- `SELECT payload, ts FROM events ORDER BY ts DESC LIMIT ?`. -/
def select (session : AguiSession) (limit : Nat) : List StoredEvent :=
  leading StoredEvent.Before limit session.events

/-- `GET /events`: the events, or nothing where a payload is no JSON. -/
def getEvents (session : AguiSession) (limit : Option Nat) :
    Option (List Doc) :=
  let rows := session.select (min (limit.getD 50) maxEvents)
  (rows.mapM fun row => parseEvent row.payload).map List.reverse

end AguiSession

/-- Each arrival that was stored, with its row, newest first. -/
abbrev EventLog := List (Arrival × StoredEvent)

def EventLog.receive (log : EventLog) (arrival : Arrival × Int) : EventLog :=
  match arrival.1.payload with
  | some payload => (arrival.1, ⟨log.length + 1, payload, arrival.2⟩) :: log
  | none => log

def EventLog.rows (log : EventLog) : List StoredEvent := log.map Prod.snd

def sessionAfter (arrivals : List (Arrival × Int)) : AguiSession :=
  arrivals.foldl AguiSession.receive {}

def logAfter (arrivals : List (Arrival × Int)) : EventLog :=
  arrivals.foldl EventLog.receive []

/-- `GET /events?limit=n` answers with the last `n` events in their order. -/
def AnswersFaithfully (arrivals : List (Arrival × Int)) (n : Nat) : Prop :=
  (sessionAfter arrivals).select (min n maxEvents) =
      (logAfter arrivals).rows.take n ∧
    ∃ events, ((logAfter arrivals).rows.take n).mapM
        (fun row => parseEvent row.payload) = some events ∧
      (sessionAfter arrivals).getEvents (some n) = some events.reverse

/-- An event is newer than another one when its timestamp is greater. -/
def StoredEvent.Newer (a b : StoredEvent) : Prop := b.ts < a.ts

instance : DecidableRel StoredEvent.Newer := fun a b =>
  inferInstanceAs (Decidable (b.ts < a.ts))

/-- A text from a websocket is JSON. -/
def Arrival.Readable : Arrival → Prop
  | post _ => True
  | message text => (parseEvent text).isSome = true

/-- The rows of a log have the ids from its length down to one. -/
structure Numbered (rows : List StoredEvent) : Prop where
  bounded : ∀ row ∈ rows, row.id ≤ rows.length
  falling : rows.Pairwise fun a b => b.id < a.id

theorem Numbered.cons {rows : List StoredEvent} (h : Numbered rows)
    (payload : List Char) (ts : Int) :
    Numbered (⟨rows.length + 1, payload, ts⟩ :: rows) := by
  constructor
  · intro row hrow
    rcases List.mem_cons.mp hrow with rfl | hrow
    · simp
    · simpa using Nat.le_succ_of_le (h.bounded row hrow)
  · refine List.pairwise_cons.mpr ⟨?_, h.falling⟩
    intro row hrow
    exact Nat.lt_succ_of_le (h.bounded row hrow)

section

variable {rows : List StoredEvent} (h : Numbered rows)
include h

theorem Numbered.ids_nodup :
    (rows.map StoredEvent.id).Nodup := by
  refine List.pairwise_map.mpr (h.falling.imp ?_)
  intro a b hlt heq
  exact Nat.lt_irrefl a.id (heq ▸ hlt)

theorem Numbered.eq_of_id {a b : StoredEvent} (ha : a ∈ rows) (hb : b ∈ rows)
    (hid : a.id = b.id) :
    a = b :=
  List.inj_on_of_nodup_map h.ids_nodup ha hb hid

theorem Numbered.antisymm :
    ∀ a ∈ rows, ∀ b ∈ rows, a.Before b → b.Before a → a = b := by
  intro a ha b hb hab hba
  refine h.eq_of_id ha hb ?_
  unfold StoredEvent.Before at hab hba
  omega

end

/-- The row with the greater id comes first only if its timestamp is greater. -/
theorem Numbered.leads_iff {rows : List StoredEvent} (k : Nat)
    (h : rows.Pairwise fun a b => b.id < a.id) :
    Leads StoredEvent.Before k rows ↔ Leads StoredEvent.Newer k rows := by
  induction rows generalizing k with
  | nil => cases k <;> simp [Leads]
  | cons row rest ih =>
      cases k with
      | zero => simp [Leads]
      | succ k =>
          obtain ⟨hfirst, hrest⟩ := List.pairwise_cons.mp h
          have hsame : ∀ other ∈ rest, row.Before other ↔ row.Newer other := by
            intro other hother
            have hid := hfirst other hother
            unfold StoredEvent.Before StoredEvent.Newer
            omega
          simp only [Leads, ih k hrest]
          exact and_congr_left fun _ => forall₂_congr hsame

/-- The table has rows that were stored, and still all of the first ones. -/
structure Retains (session : AguiSession) (rows : List StoredEvent) : Prop
    where
  numbered : Numbered rows
  lastId : session.lastId = rows.length
  subset : session.events ⊆ rows
  nodup : session.events.Nodup
  first : leading StoredEvent.Before maxEvents session.events =
    leading StoredEvent.Before maxEvents rows

theorem Retains.persistEvent {session : AguiSession} {rows : List StoredEvent}
    (h : Retains session rows) (payload : List Char) (ts : Int) :
    Retains (session.persistEvent payload ts)
      (⟨rows.length + 1, payload, ts⟩ :: rows) := by
  have hnumbered := h.numbered.cons payload ts
  generalize hrow : (⟨rows.length + 1, payload, ts⟩ : StoredEvent) = row
    at hnumbered ⊢
  have hsubset : row :: session.events ⊆ row :: rows :=
    List.cons_subset_cons row h.subset
  have hnodup : (row :: session.events).Nodup := by
    refine List.nodup_cons.mpr ⟨?_, h.nodup⟩
    intro hmem
    have hbound := h.numbered.bounded row (h.subset hmem)
    rw [← hrow] at hbound
    simp at hbound
  -- ids and rows select the same, since no id is used twice
  have hevents : (session.persistEvent payload ts).events =
      (row :: session.events).filter
        (· ∈ leading StoredEvent.Before maxEvents (row :: session.events)) := by
    simp only [AguiSession.persistEvent, h.lastId, hrow]
    refine List.filter_congr ?_
    intro other hother
    refine decide_eq_decide.mpr ⟨?_, List.mem_map_of_mem⟩
    intro hid
    obtain ⟨kept, hkept, hsame⟩ := List.mem_map.mp hid
    have hmem := hsubset (mem_of_mem_leading hkept)
    rwa [← hnumbered.eq_of_id hmem (hsubset hother) hsame]
  have hanti : ∀ a ∈ row :: session.events, ∀ b ∈ row :: session.events,
      a.Before b → b.Before a → a = b := fun a ha b hb =>
    hnumbered.antisymm a (hsubset ha) b (hsubset hb)
  refine ⟨hnumbered, ?_, ?_, ?_, ?_⟩
  · simp [AguiSession.persistEvent, h.lastId]
  · rw [hevents]
    exact fun other hother => hsubset (List.mem_of_mem_filter hother)
  · rw [hevents]
    exact hnodup.filter _
  · rw [hevents, leading_filter hnodup hanti, ← leading_cons_leading, h.first,
      leading_cons_leading]

theorem retains_after (arrivals : List (Arrival × Int)) :
    Retains (sessionAfter arrivals) (logAfter arrivals).rows := by
  have hgeneral : ∀ (session : AguiSession) (log : EventLog),
      Retains session log.rows →
      Retains (arrivals.foldl AguiSession.receive session)
        (arrivals.foldl EventLog.receive log).rows := by
    induction arrivals with
    | nil => exact fun session log h => h
    | cons arrival rest ih =>
        intro session log h
        refine ih _ _ ?_
        unfold AguiSession.receive EventLog.receive
        cases arrival.1.payload with
        | none => exact h
        | some payload =>
            simpa [EventLog.rows] using h.persistEvent payload arrival.2
  exact hgeneral {} [] ⟨⟨List.forall_mem_nil _, List.Pairwise.nil⟩, rfl,
    List.nil_subset _, List.nodup_nil, rfl⟩

theorem select_after (arrivals : List (Arrival × Int)) {n : Nat}
    (h : n ≤ maxEvents) : (sessionAfter arrivals).select n =
      leading StoredEvent.Before n (logAfter arrivals).rows := by
  rw [AguiSession.select, ← leading_leading_take h,
    (retains_after arrivals).first, leading_leading_take h]

/-- What a `POST /event` stores can be parsed. -/
theorem post_parses {body payload : List Char}
    (h : (Arrival.post body).payload = some payload) :
    (parseEvent payload).isSome = true := by
  obtain ⟨event, hevent, hpayload⟩ := Option.map_eq_some_iff.mp h
  have hstandard := (Option.filter_eq_some_iff.mp hevent).2
  simp [← hpayload, parseEvent, loads_write, Option.filter_some, hstandard]

theorem payload_of_mem (arrivals : List (Arrival × Int)) :
    ∀ entry ∈ logAfter arrivals, entry.1.payload = some entry.2.payload := by
  have hgeneral : ∀ log : EventLog,
      (∀ entry ∈ log, entry.1.payload = some entry.2.payload) →
      ∀ entry ∈ arrivals.foldl EventLog.receive log,
        entry.1.payload = some entry.2.payload := by
    induction arrivals with
    | nil => exact fun log h => h
    | cons arrival rest ih =>
        intro log h
        refine ih _ ?_
        unfold EventLog.receive
        cases hpayload : arrival.1.payload with
        | none => exact h
        | some payload => exact List.forall_mem_cons.mpr ⟨hpayload, h⟩
  exact hgeneral [] (List.forall_mem_nil _)

theorem readable_iff {entry : Arrival × StoredEvent}
    (h : entry.1.payload = some entry.2.payload) :
    (parseEvent entry.2.payload).isSome = true ↔ entry.1.Readable := by
  obtain ⟨arrival, row⟩ := entry
  cases arrival with
  | post body => exact ⟨fun _ => trivial, fun _ => post_parses h⟩
  | message text =>
      have htext : text = row.payload := Option.some.inj h
      rw [htext]
      rfl

/-- A request is answered faithfully when the last events lead and are JSON. -/
theorem answersFaithfully_iff (arrivals : List (Arrival × Int)) {n : Nat}
    (hn : n ≤ maxEvents) : AnswersFaithfully arrivals n ↔
      Leads StoredEvent.Newer n (logAfter arrivals).rows ∧
        ∀ entry ∈ (logAfter arrivals).take n, entry.1.Readable := by
  have hmin : min n maxEvents = n := Nat.min_eq_left hn
  have hleads : (sessionAfter arrivals).select n =
      (logAfter arrivals).rows.take n ↔
      Leads StoredEvent.Newer n (logAfter arrivals).rows := by
    rw [select_after arrivals hn, leading_eq_take_iff]
    exact Numbered.leads_iff n (retains_after arrivals).numbered.falling
  have hparse : (∃ events, ((logAfter arrivals).rows.take n).mapM
      (fun row => parseEvent row.payload) = some events) ↔
      ∀ entry ∈ (logAfter arrivals).take n, entry.1.Readable := by
    rw [exists_mapM_iff, EventLog.rows, ← List.map_take, List.forall_mem_map]
    refine forall₂_congr fun entry hentry => readable_iff ?_
    exact payload_of_mem arrivals entry (List.mem_of_mem_take hentry)
  rw [AnswersFaithfully, hmin, ← hleads, ← hparse]
  refine and_congr_right fun hselect => exists_congr fun events => ?_
  refine and_iff_left_of_imp fun hevents => ?_
  rw [AguiSession.getEvents, Option.getD_some, hmin, hselect, hevents]
  rfl

/-- Every `GET /events` is answered faithfully iff the last 200 events have
increasing timestamps and JSON texts. -/
theorem events_faithful_iff (arrivals : List (Arrival × Int)) :
    (∀ n, 1 ≤ n → n ≤ maxEvents → AnswersFaithfully arrivals n) ↔
      Leads StoredEvent.Newer maxEvents (logAfter arrivals).rows ∧
        ∀ entry ∈ (logAfter arrivals).take maxEvents, entry.1.Readable := by
  constructor
  · intro h
    exact (answersFaithfully_iff arrivals (Nat.le_refl _)).mp
      (h maxEvents (by decide) (Nat.le_refl _))
  · rintro ⟨hleads, hreadable⟩ n _ hn
    refine (answersFaithfully_iff arrivals hn).mpr ⟨hleads.mono hn, ?_⟩
    intro entry hentry
    exact hreadable entry (List.take_subset_take_left _ hn hentry)

namespace AguiSessionWitness

/-- Posts in one millisecond change places; a bare text makes answers fail. -/
theorem burst_and_bare_text :
    ¬AnswersFaithfully
        [(.post ['1'], 1000), (.post ['2'], 1000)] 2 ∧
      ¬AnswersFaithfully
        [(.post ['1'], 1000), (.message ['h', 'i'], 1001)] 1 := by
  constructor
  · rintro ⟨hselect, _⟩
    exact absurd hselect (by decide +kernel)
  · rintro ⟨_, events, hevents, _⟩
    have hnone : (((logAfter [(.post ['1'], 1000),
        (.message ['h', 'i'], 1001)]).rows.take 1).mapM
          fun row => parseEvent row.payload).isSome = false := by
      decide +kernel
    rw [hevents] at hnone
    cases hnone

end AguiSessionWitness

end Worker
