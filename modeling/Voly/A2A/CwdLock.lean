/-
The lock file that keeps two processes from running an executor in one
directory; any process may crash at any step.
-/
import Voly.Interaction.Steps

namespace Voly.A2A.CwdLock

open Interaction

/-- `.voly/executor.lock`: its identity, its creator, and the pid once written.
-/
structure LockFile where
  inode : Nat
  creator : Nat
  owner : Option Nat := none
deriving DecidableEq, Repr

/-- Where a process stands in `cwd_executor_lock`. -/
inductive Place
  | idle
  | making
  | creating
  | writing (inode : Nat)
  | found
  | reading
  | killing (owner : Nat)
  | stealing
  | sleeping
  | inside (inode : Nat)
  | releasing (inode : Nat)
  | unguarded
  | dead
deriving DecidableEq, Repr

/-- The body of the `with` statement runs. -/
def Place.critical : Place → Bool
  | .inside _ | .unguarded => true
  | _ => false

/-- The lock file that the process made and has not yet unlinked. -/
def Place.holds : Place → Option Nat
  | .writing inode | .inside inode | .releasing inode => some inode
  | _ => none

structure Directory where
  file : Option LockFile := none
  nextInode : Nat := 0
  place : Nat → Place := fun _ => .idle

/-- What a process does next; a `false` is an `OSError` of that call. -/
inductive Act
  | enter
  | mkdir (ok : Bool)
  | create (ok : Bool)
  | write (ok : Bool)
  | giveUp
  | look
  | read (ok : Bool)
  | kill
  | steal (ok : Bool)
  | wake
  | leave
  | release (ok : Bool)
  | crash
deriving DecidableEq, Repr

/-- A process goes on to a place. -/
def Directory.at (d : Directory) (pid : Nat) (place : Place) : Directory :=
  { d with place := Function.update d.place pid place }

section Steps

variable (mayHit : Nat → Nat → Bool)

/-- `os.kill(owner, 0)` raises: the owner is dead, or alive and of another
user. -/
def Directory.killRaises (d : Directory) (pid owner : Nat) : Bool :=
  decide (d.place owner = .dead) || !mayHit pid owner

/-- The pid read from the lock file, with 0 for a missing or blank one. -/
def Directory.ownerRead (d : Directory) : Nat :=
  match d.file with
  | some file => file.owner.getD 0
  | none => 0

def Directory.step (d : Directory) (e : Nat × Act) : Option Directory :=
  let pid := e.1
  match d.place pid, e.2 with
  | .dead, _ => none
  | _, .crash => some (d.at pid .dead)
  | .idle, .enter => some (d.at pid .making)
  | .making, .mkdir ok =>
      some (d.at pid (if ok then .creating else .unguarded))
  | .creating, .create ok =>
      if ok then
        match d.file with
        | none => some { d.at pid (.writing d.nextInode) with
            file := some ⟨d.nextInode, pid, none⟩
            nextInode := d.nextInode + 1 }
        | some _ => some (d.at pid .found)
      else some (d.at pid .unguarded)
  | .writing inode, .write ok =>
      if ok then
        -- the descriptor writes to the file that it opened
        some { d.at pid (.inside inode) with
          file := d.file.map fun file =>
            if file.inode = inode then { file with owner := some pid }
            else file }
      else some (d.at pid .unguarded)
  | .found, .giveUp => some (d.at pid .idle)
  | .found, .look => some (d.at pid .reading)
  | .reading, .read ok =>
      if ok ∧ d.ownerRead ≠ 0 ∧ d.ownerRead ≠ pid then
        some (d.at pid (.killing d.ownerRead))
      else some (d.at pid .sleeping)
  | .killing owner, .kill =>
      some (d.at pid
        (if d.killRaises mayHit pid owner then .stealing else .sleeping))
  | .stealing, .steal ok =>
      some { d.at pid .sleeping with file := if ok then none else d.file }
  | .sleeping, .wake => some (d.at pid .creating)
  | .inside inode, .leave => some (d.at pid (.releasing inode))
  | .unguarded, .leave => some (d.at pid .idle)
  | .releasing _, .release ok =>
      some { d.at pid .idle with file := if ok then none else d.file }
  | _, _ => none

end Steps

/-- No two live processes run their bodies at once. -/
def Directory.MutuallyExclusive (d : Directory) : Prop :=
  ∀ p q, (d.place p).critical = true → (d.place q).critical = true → p = q

/-- The lock file is there, and its living maker has not unlinked it. -/
def Directory.Held (d : Directory) : Prop :=
  ∃ file ∈ d.file, (d.place file.creator).holds = some file.inode

instance (d : Directory) : Decidable d.Held :=
  decidable_of_iff
    ((d.file.any fun file =>
      decide ((d.place file.creator).holds = some file.inode)) = true) (by
    simp [Directory.Held, Option.any_eq_true])

/-- No process steals a held lock or runs its body without one. -/
def Directory.Careful (d : Directory) (e : Nat × Act) : Prop :=
  (e.2 = .steal true → ¬ d.Held) ∧ e.2 ≠ .mkdir false ∧
    e.2 ≠ .create false ∧ e.2 ≠ .write false

instance (d : Directory) (e : Nat × Act) : Decidable (d.Careful e) :=
  inferInstanceAs (Decidable (_ ∧ _ ∧ _ ∧ _))

/-- The lock file is held by who holds it, and no process runs its body without
a lock. -/
structure Directory.Guarded (d : Directory) : Prop where
  own : ∀ pid inode, (d.place pid).holds = some inode →
    ∃ file ∈ d.file, file.creator = pid ∧ file.inode = inode
  guarded : ∀ pid, d.place pid ≠ .unguarded

section Proofs

variable {d : Directory} {mayHit : Nat → Nat → Bool} {pid : Nat}

theorem Directory.place_at (place : Place) (q : Nat) :
    (d.at pid place).place q = if q = pid then place else d.place q :=
  Function.update_apply d.place pid place q

theorem Directory.Guarded.at (h : d.Guarded) {place : Place}
    (hholds : place.holds = none ∨ place.holds = (d.place pid).holds)
    (hguarded : place ≠ .unguarded) : (d.at pid place).Guarded where
  own := by
    intro q inode hq
    rw [Directory.place_at] at hq
    split at hq
    · rename_i heq
      subst heq
      rcases hholds with hnone | hsame
      · rw [hnone] at hq
        cases hq
      · exact h.own q inode (hsame ▸ hq)
    · exact h.own q inode hq
  guarded := by
    intro q
    rw [Directory.place_at]
    split
    · exact hguarded
    · exact h.guarded q

/-- The lock file may go when nobody holds it. -/
theorem Directory.Guarded.unlink (h : d.Guarded) {place : Place}
    (hplace : place.holds = none) (hguarded : place ≠ .unguarded)
    (hothers : ∀ q ≠ pid, (d.place q).holds = none) :
    ({ d.at pid place with file := none } : Directory).Guarded where
  own := by
    intro q inode hq
    change ((d.at pid place).place q).holds = some inode at hq
    rw [Directory.place_at] at hq
    split at hq
    · rw [hplace] at hq
      cases hq
    · rename_i hne
      rw [hothers q hne] at hq
      cases hq
  guarded := (h.at (.inl hplace) hguarded).guarded

theorem Directory.Guarded.holder_unique (h : d.Guarded) {q : Nat} {i j : Nat}
    (hp : (d.place pid).holds = some i) (hq : (d.place q).holds = some j) :
    q = pid := by
  obtain ⟨file, hfile, hcreator, -⟩ := h.own pid i hp
  obtain ⟨file', hfile', hcreator', -⟩ := h.own q j hq
  have heq : some file = some file' :=
    (Option.mem_def.mp hfile).symm.trans (Option.mem_def.mp hfile')
  cases heq
  exact hcreator'.symm.trans hcreator

theorem holds_cases (place : Place) :
    place.holds = none ∨ ∃ inode, place.holds = some inode := by
  cases h : place.holds with
  | none => exact .inl rfl
  | some inode => exact .inr ⟨inode, rfl⟩

theorem Directory.Guarded.others (h : d.Guarded) {inode : Nat}
    (hp : (d.place pid).holds = some inode) :
    ∀ q ≠ pid, (d.place q).holds = none := by
  intro q hne
  rcases holds_cases (d.place q) with hnone | ⟨j, hj⟩
  · exact hnone
  · exact absurd (h.holder_unique hp hj) hne

theorem Directory.Guarded.none_holds (h : d.Guarded) (hheld : ¬ d.Held) :
    ∀ q, (d.place q).holds = none := by
  intro q
  rcases holds_cases (d.place q) with hnone | ⟨j, hj⟩
  · exact hnone
  · obtain ⟨file, hfile, rfl, rfl⟩ := h.own q j hj
    exact absurd ⟨file, hfile, hj⟩ hheld

theorem Directory.Guarded.create (h : d.Guarded) (hfile : d.file = none) :
    ({ d.at pid (.writing d.nextInode) with
        file := some ⟨d.nextInode, pid, none⟩
        nextInode := d.nextInode + 1 } : Directory).Guarded where
  own := by
    intro q inode hq
    change ((d.at pid (.writing d.nextInode)).place q).holds = _ at hq
    rw [Directory.place_at] at hq
    split at hq
    · rename_i heq
      cases hq
      exact ⟨_, rfl, heq.symm, rfl⟩
    · obtain ⟨file, hmem, -⟩ := h.own q inode hq
      rw [hfile] at hmem
      cases hmem
  guarded := by
    intro q
    change (d.at pid _).place q ≠ _
    rw [Directory.place_at]
    split
    · exact nofun
    · exact h.guarded q

theorem Directory.Guarded.write (h : d.Guarded) {inode : Nat}
    (hplace : d.place pid = .writing inode) :
    ({ d.at pid (.inside inode) with
        file := d.file.map fun file =>
          if file.inode = inode then { file with owner := some pid }
          else file } : Directory).Guarded where
  own := by
    have hsame : (d.at pid (.inside inode)).Guarded :=
      h.at (.inr (by rw [hplace]; rfl)) nofun
    intro q j hq
    obtain ⟨file, hmem, hcreator, hinode⟩ := hsame.own q j hq
    refine ⟨_, Option.mem_map_of_mem _ hmem, ?_⟩
    split
    · exact ⟨hcreator, hinode⟩
    · exact ⟨hcreator, hinode⟩
  guarded := by
    intro q
    change (d.at pid _).place q ≠ _
    rw [Directory.place_at]
    split
    · exact nofun
    · exact h.guarded q

theorem Directory.Guarded.step (h : d.Guarded) {e : Nat × Act}
    {d' : Directory} (hcareful : d.Careful e)
    (hstep : d.step mayHit e = some d') : d'.Guarded := by
  obtain ⟨pid, act⟩ := e
  unfold Directory.step at hstep
  dsimp only at hstep
  split at hstep
  · -- dead
    cases hstep
  · -- crash
    cases hstep
    exact h.at (.inl rfl) nofun
  · -- enter
    cases hstep
    exact h.at (.inl rfl) nofun
  · -- mkdir
    rename_i ok _
    cases ok with
    | true =>
        cases hstep
        exact h.at (.inl rfl) nofun
    | false => exact absurd rfl hcareful.2.1
  · -- create
    rename_i ok _
    cases ok with
    | true =>
        rw [if_pos rfl] at hstep
        split at hstep
        · rename_i hfile
          cases hstep
          exact h.create hfile
        · cases hstep
          exact h.at (.inl rfl) nofun
    | false => exact absurd rfl hcareful.2.2.1
  · -- write
    rename_i inode ok hplace
    cases ok with
    | true =>
        cases hstep
        exact h.write hplace
    | false => exact absurd rfl hcareful.2.2.2
  · -- give up
    cases hstep
    exact h.at (.inl rfl) nofun
  · -- look
    cases hstep
    exact h.at (.inl rfl) nofun
  · -- read
    split at hstep
    · cases hstep
      exact h.at (.inl rfl) nofun
    · cases hstep
      exact h.at (.inl rfl) nofun
  · -- kill
    cases hstep
    split
    · exact h.at (.inl rfl) nofun
    · exact h.at (.inl rfl) nofun
  · -- steal
    rename_i ok _
    cases ok with
    | true =>
        cases hstep
        exact h.unlink rfl nofun fun q _ => h.none_holds (hcareful.1 rfl) q
    | false =>
        cases hstep
        exact h.at (.inl rfl) nofun
  · -- wake
    cases hstep
    exact h.at (.inl rfl) nofun
  · -- leave a guarded body
    rename_i inode hplace
    cases hstep
    exact h.at (.inr (by rw [hplace]; rfl)) nofun
  · -- leave an unguarded body
    cases hstep
    exact h.at (.inl rfl) nofun
  · -- release: the path is unlinked, whosever file it is
    rename_i inode ok hplace
    have hholds : (d.place pid).holds = some inode := by rw [hplace]; rfl
    cases ok with
    | true =>
        cases hstep
        exact h.unlink rfl nofun (h.others hholds)
    | false =>
        cases hstep
        exact h.at (.inl rfl) nofun
  · -- no other call is made there
    cases hstep

theorem guarded_start : ({} : Directory).Guarded where
  own _ _ h := nomatch h
  guarded _ := nofun

theorem Directory.Guarded.mutuallyExclusive (h : d.Guarded) :
    d.MutuallyExclusive := by
  have hholder : ∀ q, (d.place q).critical = true →
      ∃ inode, (d.place q).holds = some inode := by
    intro q hq
    cases hplace : d.place q with
    | inside inode => exact ⟨inode, rfl⟩
    | unguarded => exact absurd hplace (h.guarded q)
    | _ =>
        rw [hplace] at hq
        cases hq
  intro p q hp hq
  obtain ⟨i, hi⟩ := hholder p hp
  obtain ⟨j, hj⟩ := hholder q hq
  exact h.holder_unique hj hi

end Proofs

/-- If no process steals a held lock or runs without one, no two live ones run
at once. -/
theorem cwd_lock_exclusive (mayHit : Nat → Nat → Bool)
    (events : List (Nat × Act)) (d : Directory)
    (hcareful : Throughout (Directory.step mayHit) Directory.Careful {} events)
    (hrun : follow (Directory.step mayHit) {} events = some d) :
    d.MutuallyExclusive := by
  have hguarded : d.Guarded :=
    follow_invariant
      (fun _ _ _ h hok hstep => Directory.Guarded.step h hok hstep)
      guarded_start hcareful hrun
  exact hguarded.mutuallyExclusive

namespace Runs

/-- A process takes the lock when there is none. -/
def take (pid : Nat) : List (Nat × Act) :=
  [(pid, .create true), (pid, .write true)]

/-- A process comes to the lock file. -/
def arrive (pid : Nat) : List (Nat × Act) :=
  [(pid, .enter), (pid, .mkdir true)]

/-- A process finds the lock file and asks for its owner. -/
def ask (pid : Nat) : List (Nat × Act) :=
  [(pid, .create true), (pid, .look), (pid, .read true), (pid, .kill)]

def stealAndTake (pid : Nat) : List (Nat × Act) :=
  (pid, .steal true) :: (pid, .wake) :: take pid

/-- The lock file of a crashed process is stolen. -/
def stale : List (Nat × Act) :=
  arrive 1 ++ take 1 ++ [(1, .crash)] ++ arrive 2 ++ ask 2 ++ stealAndTake 2

/-- The second process may not send signals to the first one. -/
def otherUser : List (Nat × Act) :=
  arrive 1 ++ take 1 ++ arrive 2 ++ ask 2 ++ stealAndTake 2

/-- Two processes find the lock file of a crashed one. -/
def staleRace : List (Nat × Act) :=
  arrive 1 ++ take 1 ++ [(1, .crash)] ++ arrive 2 ++ arrive 3 ++ ask 2 ++
    ask 3 ++ stealAndTake 3 ++ stealAndTake 2

def after (mayHit : Nat → Nat → Bool) (events : List (Nat × Act)) :
    Directory :=
  (follow (Directory.step mayHit) {} events).getD {}

theorem stale_exclusive :
    (after (fun _ _ => true) stale).place 2 = .inside 1 ∧
      (after (fun _ _ => true) stale).MutuallyExclusive :=
  ⟨rfl, cwd_lock_exclusive (fun _ _ => true) stale
    (after (fun _ _ => true) stale) (by decide +kernel) rfl⟩

theorem held_lock_stolen :
    (∃ d, follow (Directory.step fun _ _ => false) {} otherUser = some d ∧
      d.place 1 = .inside 0 ∧ d.place 2 = .inside 1 ∧
        ¬ d.MutuallyExclusive) ∧
    ∃ d, follow (Directory.step fun _ _ => true) {} staleRace = some d ∧
      d.place 3 = .inside 1 ∧ d.place 2 = .inside 2 ∧
        ¬ d.MutuallyExclusive := by
  refine ⟨⟨after (fun _ _ => false) otherUser, rfl, rfl, rfl, ?_⟩,
    ⟨after (fun _ _ => true) staleRace, rfl, rfl, rfl, ?_⟩⟩
  · intro h
    exact absurd (h 1 2 rfl rfl) (by decide)
  · intro h
    exact absurd (h 2 3 rfl rfl) (by decide)

end Runs

end Voly.A2A.CwdLock
