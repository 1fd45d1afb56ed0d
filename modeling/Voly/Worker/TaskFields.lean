/-
What the saves of `/complete`, `/fail` and the queue consumer leave of a row,
beside any other handlers.
-/
import Voly.Interaction.Leaves
import Voly.Worker.TaskStates

namespace Worker

open Python Interaction

variable {I : Type} [DecidableEq I]

/-- What a task is called, and who runs it. -/
def Task.names (task : Task) : String × String × String :=
  (task.agentName, task.title, task.description)

/-- The same metadata under every other key. -/
def SameBut (keys : List String) (old new : Dict Json) : Prop :=
  ∀ key, key ∉ keys → Dict.get? new key = Dict.get? old key

def Handler.task? : Handler → Option String
  | complete id _ => some id
  | fail id _ => some id
  | deliver _ message => some message.taskId
  | post _ => none
  | put _ _ => none

def Handler.addedKeys : Handler → List String
  | deliver _ _ => ["queued_at", "dispatch_error"]
  | _ => []

/-- A save keeps names, creation time and metadata but the handler's own keys.
-/
def KeepsFields (handlers : I → Handler) (world : TaskWorld I) (who : I) :
    TaskOp → Prop
  | .save task => ∀ id, (handlers who).task? = some id → task.id = id ∧
      ∀ row, world.rows id = some row →
        task.names = row.names ∧
        (savedTask (some row) task).createdAt = row.createdAt ∧
        SameBut (handlers who).addedKeys row.metadata task.metadata
  | _ => True

def Handler.names (held : Task) : Handler → String × String × String
  | deliver _ message => (message.agentName, message.title, message.description)
  | _ => held.names

/-- The metadata that a handler saves: `/complete` and `/fail` have none. -/
def Handler.metadata (held : Task) : Handler → Dict Json
  | deliver _ _ => held.metadata
  | _ => []

def InHand (handlers : I → Handler) (world : TaskWorld I) (who : I) :
    TaskOp → Prop
  | .save _ => ∀ id, (handlers who).task? = some id →
      ∀ row held, world.rows id = some row → world.seen who = some held →
        (handlers who).names held = row.names ∧
        SameBut (handlers who).addedKeys row.metadata
          ((handlers who).metadata held)
  | _ => True

/-- What a handler of the law saves, by the row it holds. -/
def Handler.Writes (held : Option Task) (task : Task) (handler : Handler) :
    Prop :=
  ∀ id, handler.task? = some id → ∃ existing, held = some existing ∧
    task.id = id ∧ task.names = handler.names existing ∧
    SameBut handler.addedKeys (handler.metadata existing) task.metadata

def writeProtocol (handler : Handler) :
    Protocol TaskOp TaskReply (Option Task) where
  allows held op := match op with
    | .save task => handler.Writes held task
    | _ => True
  relies _ _ _ := True
  next := heldNext

theorem sameBut_refl (keys : List String) (metadata : Dict Json) :
    SameBut keys metadata metadata := fun _ _ => rfl

theorem SameBut.symm {keys : List String} {old new : Dict Json}
    (h : SameBut keys old new) : SameBut keys new old :=
  fun key hkey => (h key hkey).symm

theorem SameBut.trans {keys : List String} {old middle new : Dict Json}
    (h : SameBut keys old middle) (h' : SameBut keys middle new) :
    SameBut keys old new :=
  fun key hkey => (h' key hkey).trans (h key hkey)

theorem sameBut_set {keys : List String} {key : String} (hkey : key ∈ keys)
    (metadata : Dict Json) (value : Json) :
    SameBut keys metadata (Dict.set metadata key value) := by
  intro other hother
  rw [Dict.get?_set, if_neg]
  rintro rfl
  exact hother hkey

theorem writes_of {handler : Handler} {existing task : Task} {id : String}
    (htask : handler.task? = some id) (hid : task.id = id)
    (hnames : task.names = handler.names existing)
    (hmetadata : SameBut handler.addedKeys (handler.metadata existing)
      task.metadata) : handler.Writes (some existing) task := by
  intro other hother
  rw [htask] at hother
  cases hother
  exact ⟨existing, rfl, hid, hnames, hmetadata⟩

theorem handler_writes (handler : Handler) :
    handler.prog.wp (writeProtocol handler) (fun _ _ => True) none := by
  cases handler with
  | post body | put id body =>
      refine Prog.wp_true ?_ _ _
      intro held op
      cases op with
      | save task => exact nofun
      | _ => trivial
  | complete id body =>
      refine ⟨trivial, fun row _ => ?_⟩
      cases row with
      | none => trivial
      | some existing =>
          dsimp only
          split
          · trivial
          · cases body with
            | none => trivial
            | some result =>
                exact ⟨writes_of rfl rfl rfl (sameBut_refl _ _),
                  fun _ _ => trivial⟩
  | fail id body =>
      refine ⟨trivial, fun row _ => ?_⟩
      cases row with
      | none => trivial
      | some existing =>
          cases body with
          | none => trivial
          | some error =>
              exact ⟨writes_of rfl rfl rfl (sameBut_refl _ _),
                fun _ _ => trivial⟩
  | deliver hasAgent message =>
      refine ⟨trivial, fun row _ => ?_⟩
      cases row with
      | none => trivial
      | some existing =>
          dsimp only
          split
          · trivial
          have hqueued := fun now : Int =>
            @sameBut_set ["queued_at", "dispatch_error"] "queued_at"
              (by simp) existing.metadata (.num now)
          refine ⟨trivial, fun now _ =>
            ⟨writes_of rfl rfl rfl (hqueued now), fun _ _ => ?_⟩⟩
          split
          · refine ⟨trivial, fun call _ => ?_⟩
            rcases call with _ | ⟨_ | _, _ | text⟩
            · trivial
            · trivial
            · -- a second save, after the call, from the row as first loaded
              have herror : SameBut ["queued_at", "dispatch_error"]
                  existing.metadata (Dict.set existing.metadata
                    "dispatch_error" (.str (slice 500 text))) :=
                sameBut_set (by simp) _ _
              exact ⟨writes_of rfl rfl rfl ((hqueued now).symm.trans herror),
                fun _ _ => trivial⟩
            · trivial
            · trivial
          · trivial

omit [DecidableEq I] in
/-- A save keeps the fields iff the row is what the handler has in hand. -/
theorem keepsFields_iff {handlers : I → Handler} {world : TaskWorld I}
    {who : I} {op : TaskOp}
    (hallows : (writeProtocol (handlers who)).allows (world.seen who) op) :
    KeepsFields handlers world who op ↔ InHand handlers world who op := by
  cases op with
  | save task =>
      change (handlers who).Writes (world.seen who) task at hallows
      constructor
      · intro h id hid row held hrow hheld
        obtain ⟨existing, hexisting, _, hnames, hmetadata⟩ := hallows id hid
        cases hheld.symm.trans hexisting
        obtain ⟨hnames', _, hmetadata'⟩ := (h id hid).2 row hrow
        exact ⟨hnames.symm.trans hnames', hmetadata'.trans hmetadata.symm⟩
      · intro h id hid
        obtain ⟨existing, hexisting, hwritten, hnames, hmetadata⟩ :=
          hallows id hid
        refine ⟨hwritten, fun row hrow => ?_⟩
        obtain ⟨hnames', hmetadata'⟩ := h id hid row existing hrow hexisting
        exact ⟨hnames.trans hnames', rfl, hmetadata'.trans hmetadata⟩
  | _ => exact Iff.rfl

theorem seen_serves (handlers : I → Handler) :
    Pool.Serves (fun i => writeProtocol (handlers i)) serveTasks
      (fun _ _ _ => True) (fun world held => world.seen = held) := by
  rintro world held i op reply rfl _ _
  refine ⟨trivial, ?_⟩
  cases op with
  | load id | save task => rfl
  | randomId | now | agentExists | send | runAgent =>
      exact (Function.update_eq_self i world.seen).symm

/-- Saves of `/complete`, `/fail` and the consumer keep to their fields iff
every row is what the handler has in hand. -/
theorem fields_kept_iff (handlers : I → Handler) (rows : String → Option Task)
    (schedule : List (I × Oracle TaskOp TaskReply)) :
    (taskPool handlers rows).Meets serveTasks (KeepsFields handlers)
        schedule ↔
      (taskPool handlers rows).Meets serveTasks (InHand handlers) schedule := by
  refine Pool.meets_congr (seen_serves handlers) ?_ schedule
    ⟨fun _ => none, rfl, fun i => handler_writes (handlers i)⟩
  rintro world held i op rfl hallows
  exact keepsFields_iff hallows

namespace TaskFieldsWitness

open TaskStatesWitness

def labelled : Task := { row with metadata := [("label", .str "a")] }

def rows (id : String) : Option Task :=
  if id = "t" then some labelled else none

/-- A `/complete` takes the metadata away. -/
theorem metadata_lost :
    ¬(taskPool (handlers (.fail "t" none)) rows).Meets serveTasks
      (KeepsFields (handlers (.fail "t" none))) (turns [true, true]) := by
  rintro ⟨_, hsave, _⟩
  obtain ⟨_, hkept⟩ := hsave _ rfl "t" rfl
  have hlabel := (hkept labelled rfl).2.2 "label" (by decide)
  exact absurd (congrArg Option.isSome hlabel) (by decide +kernel)

end TaskFieldsWitness

end Worker
