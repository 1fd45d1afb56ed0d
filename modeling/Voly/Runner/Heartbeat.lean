/-
The heartbeat of a run: a thread that writes the run's record back until it is
told to stop.
-/
import Voly.Runtime.Records

namespace Voly.Runner

open Voly.Runtime

/-- The thread waits, has woken, or has loaded the record and not yet written
it. -/
inductive Heart where
  | waiting
  | awake
  | holding (role : String) (loaded : Runtime.RunRecord)

inductive Turn where
  | wake
  | load (role : String) (ok : Bool)
  | write (now : Rat) (ok : Bool)

/-- The record's file, the heartbeat's thread, and whether it was told to stop.
-/
structure Tracked where
  file : Option Runtime.RunRecord
  heart : Option Heart := none
  stopped : Bool := false

namespace Tracked

/-- A step of the thread: it begins a heartbeat unless it is to stop. -/
def turn (w : Tracked) : Turn → Tracked
  | .wake =>
      match w.heart, w.stopped with
      | some .waiting, false => { w with heart := some .awake }
      | _, _ => w
  | .load role ok =>
      match w.heart with
      | some .awake =>
          match if ok then w.file else none with
          | some loaded => { w with heart := some (.holding role loaded) }
          | none => { w with heart := some .waiting }
      | _ => w
  | .write now ok =>
      match w.heart with
      | some (.holding role loaded) =>
          { w with
            heart := some .waiting
            file := if ok then
                some ((Update.heartbeat role 0 none).apply now loaded)
              else w.file }
      | _ => w

def play (w : Tracked) (turns : List Turn) : Tracked := turns.foldl turn w

/-- The record has come to its end, and no heartbeat goes on. -/
structure Closed (w : Tracked) : Prop where
  settled : ∀ record ∈ w.file, record.status.unsettled = false
  quiet : w.heart.isSome = true → w.stopped = true

end Tracked

namespace Tracked

/-- The statuses of the file and of the record that a heartbeat holds. -/
structure All (p : RunStatus → Prop) (w : Tracked) : Prop where
  file : ∀ record ∈ w.file, p record.status
  held : ∀ role loaded, w.heart = some (.holding role loaded) →
    p loaded.status

theorem turn_cases (w : Tracked) (t : Turn) :
    w.turn t = w ∨
    (w.heart = some .waiting ∧ w.turn t = { w with heart := some .awake }) ∨
    (w.heart = some .awake ∧ w.turn t = { w with heart := some .waiting }) ∨
    (∃ role loaded, w.heart = some .awake ∧ w.file = some loaded ∧
      w.turn t = { w with heart := some (.holding role loaded) }) ∨
    ∃ role loaded now, ∃ ok : Bool, w.heart = some (.holding role loaded) ∧
      w.turn t = { w with
        heart := some .waiting
        file := if ok then
            some ((Update.heartbeat role 0 none).apply now loaded)
          else w.file } := by
  obtain ⟨file, heart, stopped⟩ := w
  rcases heart with _ | _ | _ | ⟨role, loaded⟩
  · cases t <;> exact .inl rfl
  · cases t with
    | wake =>
        cases stopped with
        | true => exact .inl rfl
        | false => exact .inr (.inl ⟨rfl, rfl⟩)
    | load role ok => exact .inl rfl
    | write now ok => exact .inl rfl
  · cases t with
    | wake => exact .inl rfl
    | load role ok =>
        cases ok with
        | false => exact .inr (.inr (.inl ⟨rfl, rfl⟩))
        | true =>
            cases file with
            | none => exact .inr (.inr (.inl ⟨rfl, rfl⟩))
            | some loaded =>
                exact .inr (.inr (.inr (.inl ⟨role, loaded, rfl, rfl, rfl⟩)))
    | write now ok => exact .inl rfl
  · cases t with
    | wake => exact .inl rfl
    | load role' ok => exact .inl rfl
    | write now ok =>
        exact .inr (.inr (.inr (.inr ⟨role, loaded, now, ok, rfl, rfl⟩)))

theorem All.turn {p : RunStatus → Prop} {w : Tracked} (h : w.All p)
    (t : Turn) : (w.turn t).All p := by
  rcases turn_cases w t with hturn | ⟨_, hturn⟩ | ⟨_, hturn⟩ |
      ⟨role, loaded, _, hfile, hturn⟩ |
      ⟨role, loaded, now, ok, hheart, hturn⟩
  · rw [hturn]
    exact h
  · rw [hturn]
    exact ⟨h.file, fun _ _ hheld => by cases hheld⟩
  · rw [hturn]
    exact ⟨h.file, fun _ _ hheld => by cases hheld⟩
  · rw [hturn]
    refine ⟨h.file, fun _ _ hheld => ?_⟩
    cases hheld
    exact h.file loaded hfile
  · rw [hturn]
    refine ⟨fun record hrecord => ?_, fun _ _ hheld => by cases hheld⟩
    cases ok with
    | true =>
        cases hrecord
        rw [apply_status]
        exact h.held role loaded hheart
    | false => exact h.file record hrecord

theorem All.play {p : RunStatus → Prop} {w : Tracked} (h : w.All p)
    (turns : List Turn) : (w.play turns).All p := by
  induction turns generalizing w with
  | nil => exact h
  | cons t turns ih => exact ih (h.turn t)

@[simp] theorem turn_stopped (w : Tracked) (t : Turn) :
    (w.turn t).stopped = w.stopped := by
  rcases turn_cases w t with hturn | ⟨_, hturn⟩ | ⟨_, hturn⟩ |
      ⟨_, _, _, _, hturn⟩ | ⟨_, _, _, _, _, hturn⟩
  all_goals rw [hturn]

@[simp] theorem play_stopped (w : Tracked) (turns : List Turn) :
    (w.play turns).stopped = w.stopped := by
  induction turns generalizing w with
  | nil => rfl
  | cons t turns ih => exact (ih _).trans (turn_stopped w t)

theorem turn_heart (w : Tracked) (t : Turn) :
    (w.turn t).heart.isSome = w.heart.isSome := by
  rcases turn_cases w t with hturn | ⟨hheart, hturn⟩ | ⟨hheart, hturn⟩ |
      ⟨_, _, hheart, _, hturn⟩ | ⟨_, _, _, _, hheart, hturn⟩
  · rw [hturn]
  all_goals
    rw [hturn, hheart]
    rfl

@[simp] theorem play_heart (w : Tracked) (turns : List Turn) :
    (w.play turns).heart.isSome = w.heart.isSome := by
  induction turns generalizing w with
  | nil => rfl
  | cons t turns ih => exact (ih _).trans (turn_heart w t)

theorem play_none {w : Tracked} (h : w.heart = none) (turns : List Turn) :
    w.play turns = w := by
  induction turns with
  | nil => rfl
  | cons t turns ih =>
      have hturn : w.turn t = w := by
        unfold turn
        rw [h]
        cases t <;> rfl
      change (w.turn t).play turns = w
      rw [hturn, ih]

theorem play_waiting {w : Tracked} (h : w.heart = some .waiting)
    (hstopped : w.stopped = true) (turns : List Turn) : w.play turns = w := by
  induction turns with
  | nil => rfl
  | cons t turns ih =>
      have hturn : w.turn t = w := by
        unfold turn
        rw [h, hstopped]
        cases t <;> rfl
      change (w.turn t).play turns = w
      rw [hturn, ih]

theorem turn_file {w : Tracked} (h : w.file.isSome = true) (t : Turn) :
    (w.turn t).file.isSome = true := by
  rcases turn_cases w t with hturn | ⟨_, hturn⟩ | ⟨_, hturn⟩ |
      ⟨_, _, _, _, hturn⟩ | ⟨_, _, _, ok, _, hturn⟩
  · rw [hturn]
    exact h
  · rw [hturn]
    exact h
  · rw [hturn]
    exact h
  · rw [hturn]
    exact h
  · rw [hturn]
    cases ok with
    | true => rfl
    | false => exact h

theorem play_file {w : Tracked} (h : w.file.isSome = true)
    (turns : List Turn) : (w.play turns).file.isSome = true := by
  induction turns generalizing w with
  | nil => exact h
  | cons t turns ih => exact ih (turn_file h t)

end Tracked

/-- Where the heartbeat's thread is. -/
inductive Phase where
  | waiting
  | awake
  | holding
deriving DecidableEq, Repr

def Heart.phase : Heart → Phase
  | .waiting => .waiting
  | .awake => .awake
  | .holding _ _ => .holding

/-- A step of the thread over a record that can be loaded. -/
def Phase.turn (stopped : Bool) : Phase → Turn → Phase
  | .waiting, .wake => if stopped then .waiting else .awake
  | .awake, .load _ ok => if ok then .holding else .waiting
  | .holding, .write _ _ => .waiting
  | phase, _ => phase

/-- The next write of the thread succeeds. -/
def overwrites : List Turn → Bool
  | [] => false
  | .write _ ok :: _ => ok
  | _ :: turns => overwrites turns

namespace Tracked

theorem turn_phase {w : Tracked} (h : w.file.isSome = true) (t : Turn) :
    (w.turn t).heart.map Heart.phase =
      w.heart.map fun heart => heart.phase.turn w.stopped t := by
  obtain ⟨record, hfile⟩ := Option.isSome_iff_exists.mp h
  obtain ⟨file, heart, stopped⟩ := w
  cases hfile
  rcases heart with _ | _ | _ | ⟨role, loaded⟩
  · cases t <;> rfl
  · cases t with
    | wake => cases stopped <;> rfl
    | load role ok => rfl
    | write now ok => rfl
  · cases t with
    | wake => rfl
    | load role ok => cases ok <;> rfl
    | write now ok => rfl
  · cases t <;> rfl

theorem play_phase {w : Tracked} (h : w.file.isSome = true)
    (turns : List Turn) :
    (w.play turns).heart.map Heart.phase = w.heart.map fun heart =>
      turns.foldl (Phase.turn w.stopped) heart.phase := by
  induction turns generalizing w with
  | nil => rfl
  | cons t turns ih =>
      have hrest := ih (turn_file h t)
      rw [turn_stopped] at hrest
      change ((w.turn t).play turns).heart.map Heart.phase = _
      rw [hrest, ← Function.comp_def (turns.foldl _) Heart.phase,
        ← Option.map_map, turn_phase h, Option.map_map]
      rfl

/-- What a heartbeat that holds the record does to the file when it is told to
stop. -/
theorem play_holding {w : Tracked} {role : String} {loaded : Runtime.RunRecord}
    (h : w.heart = some (.holding role loaded)) (hstopped : w.stopped = true)
    (turns : List Turn) :
    if overwrites turns then
      (w.play turns).file.map Runtime.RunRecord.status = some loaded.status
    else (w.play turns).file = w.file := by
  induction turns with
  | nil => rfl
  | cons t turns ih =>
      cases t with
      | wake =>
          have hturn : w.turn .wake = w := by
            unfold turn
            rw [h]
          change if overwrites turns then
            ((w.turn .wake).play turns).file.map Runtime.RunRecord.status = _
            else ((w.turn .wake).play turns).file = w.file
          rw [hturn]
          exact ih
      | load role' ok =>
          have hturn : w.turn (.load role' ok) = w := by
            unfold turn
            rw [h]
          change if overwrites turns then
            ((w.turn (.load role' ok)).play turns).file.map
              Runtime.RunRecord.status = _
            else ((w.turn (.load role' ok)).play turns).file = w.file
          rw [hturn]
          exact ih
      | write now ok =>
          have hwaits : (w.turn (.write now ok)).heart = some .waiting := by
            unfold turn
            rw [h]
          have hsame := play_waiting hwaits
            ((turn_stopped w _).trans hstopped) turns
          change if ok then
            ((w.turn (.write now ok)).play turns).file.map
              Runtime.RunRecord.status = _
            else ((w.turn (.write now ok)).play turns).file = w.file
          rw [hsame]
          unfold turn
          rw [h]
          cases ok with
          | true => exact congrArg some (apply_status _ _ _)
          | false => rfl

end Tracked

end Voly.Runner
