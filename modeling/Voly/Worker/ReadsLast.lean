/-
Requests to the marketplace one after the other: when a read tells what the
last write of its id supplied.
-/
import Voly.Interaction.Steps
import Voly.Worker.Marketplace

namespace Worker.Marketplace

open Python Interaction

inductive MarketRequest where
  | post (body : Option SkillFields)
  | sync (items : List (Option SyncItem))
  | delete (id : String)
  | get (id : String)

structure Supplied where
  text : TextColumn → Option String
  list : ListColumn → Option (List String)
  number : NumberColumn → Option Rat

/-- A body supplies its fields, and the status `active` when no other. -/
def SkillFields.supplied (body : SkillFields) : Supplied where
  text column :=
    if column = .status then some ((body.text .status).getD "active")
    else body.text column
  list := body.list
  number := body.number

/-- A delete supplies the status. -/
def archived : Supplied where
  text column := if column = .status then some "archived" else none
  list _ := none
  number _ := none

structure Supplied.ShownBy (supplied : Supplied) (skill : Skill) : Prop where
  text : ∀ column, ∀ value ∈ supplied.text column, skill.text column = value
  list : ∀ column, ∀ items ∈ supplied.list column, skill.list column = items
  number : ∀ column, ∀ value ∈ supplied.number column,
    skill.number column = value

abbrev Writes := String → Option Supplied

def Writes.post (now : Nat) (writes : Writes) : Option SkillFields → Writes
  | none => writes
  | some body =>
      if body.postName = "" then writes
      else Function.update writes (body.postId now) (some body.supplied)

def Writes.syncItem (writes : Writes) : Option SyncItem → Writes
  | none => writes
  | some item =>
      if item.syncName = "" then writes
      else Function.update writes item.syncId (some item.supplied)

/-- The market, the time in milliseconds, and the last write of every id. -/
structure MarketWorld where
  market : Market := {}
  clock : Nat := 0
  writes : Writes := fun _ => none

namespace MarketWorld

variable (world : MarketWorld)

def serve (now : Nat) : MarketRequest → MarketWorld
  | .post body =>
      { market := world.market.postSkill now body
        clock := now
        writes := world.writes.post now body }
  | .sync items =>
      { market := world.market.syncSkills items
        clock := now
        writes := items.foldl Writes.syncItem world.writes }
  | .delete id =>
      { market := world.market.deleteSkill id
        clock := now
        writes :=
          if (world.market.table id).isSome then
            Function.update world.writes id (some archived)
          else world.writes }
  | .get id =>
      { world with
        market := (world.market.getSkill now id).2
        clock := now }

end MarketWorld

/-- A request after some milliseconds. -/
abbrev TimedRequest := Nat × MarketRequest

def marketStep (world : MarketWorld) (event : TimedRequest) :
    Option MarketWorld :=
  some (world.serve (world.clock + event.1) event.2)

def TellsLast (world : MarketWorld) : TimedRequest → Prop
  | (wait, .get id) => ∀ supplied ∈ world.writes id, ∃ skill,
      (world.market.getSkill (world.clock + wait) id).1 = .found skill ∧
        skill.id = id ∧ supplied.ShownBy skill
  | _ => True

def Stands (column : TextColumn) (value : String) : Prop :=
  value ≠ "" ∨ textDefault column = ""

/-- The row holds what is supplied, in columns that are read as they are. -/
def Supplied.HeldBy (supplied : Supplied) (row : SkillRow) : Prop :=
  (∀ column, ∀ value ∈ supplied.text column,
    row.text column = value ∧ (column = .installKind → value ≠ "")) ∧
  (∀ column, ∀ items ∈ supplied.list column,
    row.list column = stringify items) ∧
  ∀ column, ∀ value ∈ supplied.number column, row.number column = value

/-- The row has the required tools and the supplied numbers, which no write
sets. -/
def Supplied.LeftBy (supplied : Supplied) (old : SkillRow) : Prop :=
  (∀ items ∈ supplied.list .requiredTools,
    old.list .requiredTools = stringify items) ∧
  ∀ column, ∀ value ∈ supplied.number column, old.number column = value

/-- A new row is active and starts its numbers; an existing one gets no
defaults. -/
def PostFits (market : Market) (now : Nat) (body : SkillFields) : Prop :=
  (market.table (body.postId now) = none →
    (∀ column, ∀ value ∈ body.supplied.text column,
      Stands column value ∧ (column = .status → value = "active")) ∧
    ∀ column, ∀ value ∈ body.number column, numberStart column = value) ∧
  ∀ old ∈ market.table (body.postId now),
    (∀ column, ∀ value ∈ body.supplied.text column,
      if postSets column then Stands column value
      else old.text column = value) ∧
    body.supplied.LeftBy old

/-- As for a post; and a row that is still cached holds what is supplied. -/
def SyncFits (market : Market) (now : Nat) (item : SyncItem) : Prop :=
  item.text .installKind ≠ some "" ∧
  (market.table item.syncId = none →
    ∀ column, ∀ value ∈ item.number column, numberStart column = value) ∧
  (∀ old ∈ market.table item.syncId,
    (∀ value ∈ item.text .author, old.text .author = value) ∧
    item.supplied.LeftBy old) ∧
  ∀ row ∈ market.live now item.syncId, item.supplied.HeldBy row

def SyncAllFits (now : Nat) (market : Market) : List (Option SyncItem) → Prop
  | [] => True
  | item :: rest =>
      (∀ given ∈ item, given.syncName ≠ "" → SyncFits market now given) ∧
        SyncAllFits now (market.syncSkill item) rest

def WritesFit (world : MarketWorld) : TimedRequest → Prop
  | (wait, .post body) => ∀ given ∈ body, given.postName ≠ "" →
      PostFits world.market (world.clock + wait) given
  | (wait, .sync items) =>
      SyncAllFits (world.clock + wait) world.market items
  | _ => True

theorem parse_stringify (items : List String) :
    parse (stringify items) = some items := by
  have hne : stringify items ≠ [] := by simp [stringify, stringsDoc, Doc.write]
  rw [parse, if_neg hne, stringify, loads_write]
  exact strings?_stringsDoc items

/-- Every list of the row was written from strings. -/
def Readable (row : SkillRow) : Prop :=
  ∀ column, ∃ items, row.list column = stringify items

theorem parseSkill_of_readable {row : SkillRow} (h : Readable row) :
    ∃ skill, parseSkill row = some skill ∧ skill.id = row.id ∧
      ∀ supplied : Supplied, supplied.HeldBy row → supplied.ShownBy skill := by
  have hparsed : (listColumns.all fun column =>
      (parse (row.list column)).isSome) = true := by
    rw [List.all_eq_true]
    intro column _
    obtain ⟨items, hitems⟩ := h column
    rw [hitems, parse_stringify]
    rfl
  refine ⟨_, if_pos hparsed, rfl, ?_⟩
  rintro supplied ⟨htext, hlist, hnumber⟩
  refine ⟨fun column value hvalue => ?_, fun column items hitems => ?_,
    hnumber⟩
  · obtain ⟨hheld, hkind⟩ := htext column value hvalue
    dsimp only
    split
    · next hcolumn => simp [orElse, hheld, hkind hcolumn]
    · exact hheld
  · dsimp only
    rw [hlist column items hitems, parse_stringify]
    rfl

/-- Rows, and cached rows until they expire, hold what the last write supplied.
-/
structure Sound (market : Market) (clock : Nat) (writes : Writes) : Prop where
  table : ∀ id, ∀ row ∈ market.table id, row.id = id ∧ Readable row ∧
    ∀ supplied ∈ writes id, supplied.HeldBy row
  stored : ∀ id, writes id ≠ none → market.table id ≠ none
  cache : ∀ id, ∀ cached ∈ market.cache id, clock < cached.expires →
    cached.row.id = id ∧ Readable cached.row ∧
      ∀ supplied ∈ writes id, supplied.HeldBy cached.row

section Kept

variable {market : Market} {clock now : Nat} {writes : Writes}
variable {supplied : Supplied} {id : String} {row : SkillRow}

theorem Sound.start : Sound {} 0 fun _ => none where
  table _ _ h := by cases h
  stored _ h := absurd rfl h
  cache _ _ h := by cases h

theorem Sound.later (h : Sound market clock writes) (hnow : clock ≤ now) :
    Sound market now writes :=
  ⟨h.table, h.stored, fun id cached hcached hlive =>
    h.cache id cached hcached (Nat.lt_of_le_of_lt hnow hlive)⟩

/-- A row is written; its cached row is dropped or holds what is supplied. -/
theorem Sound.write (h : Sound market now writes) (hid : row.id = id)
    (hreadable : Readable row) (hheld : supplied.HeldBy row)
    {next : Market}
    (htable : next.table = Function.update market.table id (some row))
    (hcache : ∀ other, ∀ cached ∈ next.cache other, market.cache other =
      some cached ∧ (other = id → now < cached.expires →
        supplied.HeldBy cached.row)) :
    Sound next now (Function.update writes id (some supplied)) := by
  refine ⟨fun other held hmem => ?_, fun other hother => ?_,
    fun other cached hmem hlive => ?_⟩
  · rw [htable, Function.update_apply] at hmem
    split at hmem
    · next hsame =>
        cases hmem
        subst hsame
        refine ⟨hid, hreadable, fun told htold => ?_⟩
        rw [Function.update_self] at htold
        cases htold
        exact hheld
    · next hother =>
        rw [Function.update_of_ne hother]
        exact h.table other held hmem
  · rw [htable, Function.update_apply]
    split
    · exact Option.some_ne_none row
    · next hne =>
        rw [Function.update_of_ne hne] at hother
        exact h.stored other hother
  · obtain ⟨hcached, hsupplied⟩ := hcache other cached hmem
    obtain ⟨hrow, hread, hlast⟩ := h.cache other cached hcached hlive
    refine ⟨hrow, hread, fun told htold => ?_⟩
    rw [Function.update_apply] at htold
    split at htold
    · next hsame =>
        cases htold
        exact hsupplied hsame hlive
    · exact hlast told htold

theorem mem_dropped {cache : String → Option Cached} {other : String}
    {cached : Cached} (h : cached ∈ Function.update cache id none other) :
    other ≠ id ∧ cache other = some cached := by
  rw [Function.update_apply] at h
  split at h
  · cases h
  · next hne => exact ⟨hne, h⟩

theorem readable_merge {sets : TextColumn → Bool} {old : SkillRow}
    (hold : Readable old) (hrow : Readable row) :
    Readable (merge sets old row) := by
  intro column
  rw [merge]
  dsimp only
  split
  · exact hold column
  · exact hrow column

/-- What an upsert writes under the id of its row. -/
def written (market : Market) (sets : TextColumn → Bool) (row : SkillRow) :
    SkillRow :=
  (market.table row.id).elim row fun old => merge sets old row

theorem Sound.written (h : Sound market now writes)
    {sets : TextColumn → Bool} (hrow : Readable row) :
    (written market sets row).id = row.id ∧
      Readable (written market sets row) := by
  unfold Marketplace.written
  cases hold : market.table row.id with
  | none => exact ⟨rfl, hrow⟩
  | some old =>
      obtain ⟨hid, hreadable, _⟩ := h.table row.id old hold
      exact ⟨hid, readable_merge hreadable hrow⟩

section

variable {column : TextColumn} {value : String}

theorem orElse_of_stands (h : Stands column value) :
    orElse value (textDefault column) = value := by
  by_cases hempty : value = ""
  · have hdefault := h.resolve_left (not_not.mpr hempty)
    simp [orElse, hempty, hdefault]
  · simp [orElse, hempty]

theorem readable_postRow (body : SkillFields) : Readable (body.postRow now) :=
  fun _ => ⟨_, rfl⟩

theorem postRow_text {body : SkillFields} (hcolumn : column ≠ .status)
    (hvalue : value ∈ body.supplied.text column) (hstands : Stands column value) :
    (body.postRow now).text column = value := by
  simp only [SkillFields.supplied, if_neg hcolumn] at hvalue
  simp [SkillFields.postRow, hcolumn, Option.mem_def.mp hvalue,
    orElse_of_stands hstands]

theorem installKind_of_stands (h : Stands column value) :
    column = .installKind → value ≠ "" := by
  rintro rfl
  exact h.resolve_right (by decide)

end

theorem PostFits.held {body : SkillFields} (h : PostFits market now body) :
    body.supplied.HeldBy (written market postSets (body.postRow now)) := by
  have hid : (body.postRow now).id = body.postId now := rfl
  rw [Marketplace.written, hid]
  cases hold : market.table (body.postId now) with
  | none =>
      obtain ⟨htext, hnumber⟩ := h.1 hold
      refine ⟨fun column value hvalue => ?_, fun column items hitems => ?_,
        hnumber⟩
      · obtain ⟨hstands, hactive⟩ := htext column value hvalue
        refine ⟨?_, installKind_of_stands hstands⟩
        by_cases hcolumn : column = .status
        · rw [hactive hcolumn, hcolumn]
          rfl
        · exact postRow_text hcolumn hvalue hstands
      · have hitems : body.list column = some items := hitems
        simp [SkillFields.postRow, hitems]
  | some old =>
      obtain ⟨htext, htools, hnumber⟩ := h.2 old hold
      refine ⟨fun column value hvalue => ?_, fun column items hitems => ?_,
        hnumber⟩
      · have hcolumn := htext column value hvalue
        by_cases hset : postSets column = true
        · rw [if_pos hset] at hcolumn
          refine ⟨?_, installKind_of_stands hcolumn⟩
          simp only [Option.elim_some, merge, hset, if_true]
          refine postRow_text ?_ hvalue hcolumn
          rintro rfl
          cases hset
        · rw [if_neg hset] at hcolumn
          refine ⟨by simpa [merge, hset] using hcolumn, ?_⟩
          rintro rfl
          exact absurd rfl hset
      · by_cases hcolumn : column = .requiredTools
        · subst hcolumn
          exact htools items hitems
        · have hitems : body.list column = some items := hitems
          simp [merge, hcolumn, SkillFields.postRow, hitems]

theorem Sound.post (h : Sound market now writes) {body : Option SkillFields}
    (hfits : ∀ given ∈ body, given.postName ≠ "" →
      PostFits market now given) :
    Sound (market.postSkill now body) now (writes.post now body) := by
  cases body with
  | none => exact h
  | some body =>
      rw [Market.postSkill, Writes.post]
      by_cases hname : body.postName = ""
      · rw [if_pos hname, if_pos hname]
        exact h
      · rw [if_neg hname, if_neg hname]
        obtain ⟨hid, hreadable⟩ :=
          @Sound.written _ _ _ _ h postSets (readable_postRow body)
        refine h.write hid hreadable (hfits body rfl hname).held rfl
          fun other cached hmem => ?_
        obtain ⟨hne, hcached⟩ := mem_dropped hmem
        exact ⟨hcached, fun hsame => absurd hsame hne⟩

theorem readable_syncRow (item : SyncItem) : Readable item.syncRow :=
  fun _ => ⟨_, rfl⟩

theorem syncRow_text {item : SyncItem} {column : TextColumn} {value : String}
    (hvalue : value ∈ item.supplied.text column) :
    item.syncRow.text column = value := by
  cases column with
  | status => simpa [SkillFields.supplied, SyncItem.syncRow, textDefault]
      using hvalue
  | _ =>
      simp only [SkillFields.supplied, reduceCtorEq, if_false,
        Option.mem_def] at hvalue
      simp [SyncItem.syncRow, SyncItem.syncName, hvalue]

theorem SyncFits.held {item : SyncItem} (h : SyncFits market now item) :
    item.supplied.HeldBy (written market syncSets item.syncRow) := by
  obtain ⟨hkind, hnew, hover, _⟩ := h
  have hinstall : ∀ column, ∀ value ∈ item.supplied.text column,
      column = .installKind → value ≠ "" := by
    rintro column value hvalue rfl hempty
    rw [hempty] at hvalue
    exact hkind hvalue
  have hid : item.syncRow.id = item.syncId := rfl
  rw [Marketplace.written, hid]
  cases hold : market.table item.syncId with
  | none =>
      refine ⟨fun column value hvalue =>
        ⟨syncRow_text hvalue, hinstall column value hvalue⟩,
        fun column items hitems => ?_, hnew hold⟩
      have hitems : item.list column = some items := hitems
      simp [SyncItem.syncRow, hitems]
  | some old =>
      obtain ⟨hauthor, htools, hnumber⟩ := hover old hold
      refine ⟨fun column value hvalue => ⟨?_, hinstall column value hvalue⟩,
        fun column items hitems => ?_, hnumber⟩
      · by_cases hset : syncSets column = true
        · simp [merge, hset, syncRow_text hvalue]
        · have hcolumn : column = .author := by
            cases column <;> first | rfl | exact absurd rfl hset
          subst hcolumn
          exact hauthor value hvalue
      · by_cases hcolumn : column = .requiredTools
        · subst hcolumn
          exact htools items hitems
        · have hitems : item.list column = some items := hitems
          simp [merge, hcolumn, SyncItem.syncRow, hitems]

theorem live_of_cached {cached : Cached} (hcached : market.cache id =
    some cached) (hlive : now < cached.expires) :
    market.live now id = some cached.row := by
  simp [Market.live, hcached, Option.filter, hlive]

theorem Sound.sync (h : Sound market now writes) {item : Option SyncItem}
    (hfits : ∀ given ∈ item, given.syncName ≠ "" →
      SyncFits market now given) :
    Sound (market.syncSkill item) now (writes.syncItem item) := by
  cases item with
  | none => exact h
  | some item =>
      rw [Market.syncSkill, Writes.syncItem]
      by_cases hname : item.syncName = ""
      · rw [if_pos hname, if_pos hname]
        exact h
      · rw [if_neg hname, if_neg hname]
        have hitem := hfits item rfl hname
        obtain ⟨hid, hreadable⟩ :=
          @Sound.written _ _ _ _ h syncSets (readable_syncRow item)
        refine h.write hid hreadable hitem.held rfl
          fun other cached hmem => ⟨hmem, fun hsame hlive => ?_⟩
        subst hsame
        exact hitem.2.2.2 _ (live_of_cached hmem hlive)

theorem Sound.syncAll (h : Sound market now writes)
    {items : List (Option SyncItem)} (hfits : SyncAllFits now market items) :
    Sound (market.syncSkills items) now
      (items.foldl Writes.syncItem writes) := by
  induction items generalizing market writes with
  | nil => exact h
  | cons item rest ih => exact ih (h.sync hfits.1) hfits.2

theorem archived_heldBy (row : SkillRow) : archived.HeldBy
    { row with text := Function.update row.text .status "archived" } := by
  refine ⟨fun column value hvalue => ?_, fun _ _ h => ?_, fun _ _ h => ?_⟩
  · by_cases hcolumn : column = .status
    · subst hcolumn
      cases hvalue
      simp
    · simp [archived, hcolumn] at hvalue
  · cases h
  · cases h

theorem Sound.delete (h : Sound market now writes) (id : String) :
    Sound (market.deleteSkill id) now
      (if (market.table id).isSome then
        Function.update writes id (some archived) else writes) := by
  rw [Market.deleteSkill]
  cases hrow : market.table id with
  | none => exact h
  | some row =>
      obtain ⟨hid, hreadable, _⟩ := h.table id row hrow
      have hwrite := @Sound.write _ _ _ archived id
        { row with text := Function.update row.text .status "archived" } h hid
        hreadable (archived_heldBy row)
      refine hwrite rfl
        fun other cached hmem => ?_
      obtain ⟨hne, hcached⟩ := mem_dropped hmem
      exact ⟨hcached, fun hsame => absurd hsame hne⟩

theorem Sound.cached (h : Sound market now writes) {row : SkillRow}
    (hlive : market.live now id = some row) :
    row.id = id ∧ Readable row ∧
      ∀ supplied ∈ writes id, supplied.HeldBy row := by
  obtain ⟨cached, hcached, rfl⟩ := Option.map_eq_some_iff.mp hlive
  obtain ⟨hcached, hexpires⟩ := Option.filter_eq_some_iff.mp hcached
  exact h.cache id cached hcached (of_decide_eq_true hexpires)

theorem Sound.get (h : Sound market now writes) (id : String) :
    Sound (market.getSkill now id).2 now writes ∧
      ∀ supplied ∈ writes id, ∃ skill,
        (market.getSkill now id).1 = .found skill ∧ skill.id = id ∧
          supplied.ShownBy skill := by
  have hshown : ∀ {row : SkillRow}, row.id = id ∧ Readable row ∧
      (∀ supplied ∈ writes id, supplied.HeldBy row) →
        ∀ supplied ∈ writes id, ∃ skill,
          SkillAnswer.of (parseSkill row) = .found skill ∧ skill.id = id ∧
            supplied.ShownBy skill := by
    rintro row ⟨hid, hreadable, hheld⟩ supplied hsupplied
    obtain ⟨skill, hskill, hsame, hshows⟩ := parseSkill_of_readable hreadable
    refine ⟨skill, ?_, hsame.trans hid, hshows supplied
      (hheld supplied hsupplied)⟩
    rw [hskill]
    rfl
  rw [Market.getSkill]
  cases hlive : market.live now id with
  | some row => exact ⟨h, hshown (h.cached hlive)⟩
  | none =>
      cases hrow : market.table id with
      | none =>
          refine ⟨h, fun supplied hsupplied => ?_⟩
          exact absurd hrow
            (h.stored id (Option.ne_none_iff_exists'.mpr ⟨_, hsupplied⟩))
      | some row =>
          have htable := h.table id row hrow
          refine ⟨⟨h.table, h.stored, fun other cached hmem hexpires => ?_⟩,
            hshown htable⟩
          dsimp only at hmem
          rw [Function.update_apply] at hmem
          split at hmem
          · next hsame =>
              cases hmem
              subst hsame
              exact htable
          · exact h.cache other cached hmem hexpires

end Kept

theorem Sound.serve {world : MarketWorld}
    (h : Sound world.market world.clock world.writes) {event : TimedRequest}
    (hfits : WritesFit world event) :
    TellsLast world event ∧ ∀ next, marketStep world event = some next →
      Sound next.market next.clock next.writes := by
  obtain ⟨wait, request⟩ := event
  have hnow := h.later (Nat.le_add_right world.clock wait)
  cases request with
  | post body =>
      refine ⟨trivial, fun next hnext => ?_⟩
      cases hnext
      exact hnow.post hfits
  | sync items =>
      refine ⟨trivial, fun next hnext => ?_⟩
      cases hnext
      exact hnow.syncAll hfits
  | delete id =>
      refine ⟨trivial, fun next hnext => ?_⟩
      cases hnext
      exact hnow.delete id
  | get id =>
      refine ⟨(hnow.get id).2, fun next hnext => ?_⟩
      cases hnext
      exact (hnow.get id).1

/-- As long as writes fit the market, reads tell what the last write supplied.
-/
theorem reads_last_write (requests : List TimedRequest)
    (h : Throughout marketStep WritesFit {} requests) :
    Throughout marketStep TellsLast {} requests :=
  h.implies (fun world => Sound world.market world.clock world.writes)
    (fun _ _ hsound hfits => hsound.serve hfits) Sound.start

section Decided

variable (market : Market) (now : Nat)

instance (column : TextColumn) (value : String) :
    Decidable (Stands column value) :=
  inferInstanceAs (Decidable (_ ∨ _))

instance (supplied : Supplied) (row : SkillRow) :
    Decidable (supplied.HeldBy row) :=
  inferInstanceAs (Decidable (_ ∧ _ ∧ _))

instance (supplied : Supplied) (old : SkillRow) :
    Decidable (supplied.LeftBy old) :=
  inferInstanceAs (Decidable (_ ∧ _))

instance (body : SkillFields) : Decidable (PostFits market now body) :=
  inferInstanceAs (Decidable (_ ∧ _))

instance (item : SyncItem) : Decidable (SyncFits market now item) :=
  inferInstanceAs (Decidable (_ ∧ _ ∧ _ ∧ _))

instance decidableSyncAllFits : (market : Market) →
    (items : List (Option SyncItem)) →
    Decidable (SyncAllFits now market items)
  | _, [] => isTrue trivial
  | market, item :: rest =>
      have := decidableSyncAllFits (market.syncSkill item) rest
      inferInstanceAs (Decidable (_ ∧ _))

instance (world : MarketWorld) :
    (event : TimedRequest) → Decidable (WritesFit world event)
  | (_, .post _) => inferInstanceAs (Decidable (∀ _ ∈ _, _ → _))
  | (_, .sync _) => inferInstanceAs (Decidable (SyncAllFits _ _ _))
  | (_, .delete _) => isTrue trivial
  | (_, .get _) => isTrue trivial

end Decided

namespace ReadsLastWitness

def fields (given : List (TextColumn × String)) : SkillFields where
  id := some "docs"
  text column := (given.find? fun field => field.1 = column).map Prod.snd

def shownText (column : TextColumn) : SkillAnswer → Option String
  | .found skill => some (skill.text column)
  | _ => none

theorem shownText_of_tells {world : MarketWorld} {wait : Nat} {id : String}
    (h : TellsLast world (wait, .get id)) {supplied : Supplied}
    (hsupplied : world.writes id = some supplied) {column : TextColumn}
    {value : String} (hvalue : supplied.text column = some value) :
    shownText column (world.market.getSkill (world.clock + wait) id).1 =
      some value := by
  obtain ⟨skill, hfound, _, hshown⟩ := h supplied hsupplied
  rw [hfound, ← hshown.text column value hvalue]
  rfl

def posted (author : String) : MarketRequest :=
  .post (some (fields [(.name, "Docs"), (.author, author)]))

def reauthored : List TimedRequest :=
  [(0, posted "ann"), (1000, posted "bob"), (1000, .get "docs")]

def revived : List TimedRequest :=
  [(0, posted "ann"), (1000, .delete "docs"), (1000, posted "ann"),
    (1000, .get "docs")]

def synced : List TimedRequest :=
  [(0, posted "ann"), (1000, .get "docs"),
    (1000, .sync [some { fields [(.name, "Docs"), (.description, "new")]
      with }]),
    (1000, .get "docs")]

/-- A posted author, a revived skill's status and a synced description are not
read back. -/
theorem writes_unread :
    ¬Throughout marketStep TellsLast {} reauthored ∧
      ¬Throughout marketStep TellsLast {} revived ∧
      ¬Throughout marketStep TellsLast {} synced := by
  refine ⟨fun h => ?_, fun h => ?_, fun h => ?_⟩
  · have hread : shownText .author _ = _ :=
      shownText_of_tells ((h.tail rfl).tail rfl).head rfl rfl
    revert hread
    decide +kernel
  · have hread : shownText .status _ = _ := shownText_of_tells
      (((h.tail rfl).tail rfl).tail rfl).head rfl rfl
    revert hread
    decide +kernel
  · have hread : shownText .description _ = _ := shownText_of_tells
      (((h.tail rfl).tail rfl).tail rfl).head rfl rfl
    revert hread
    decide +kernel

def fitting : List TimedRequest :=
  [(0, posted "ann"), (1000, .get "docs"),
    (1000, .post (some (fields [(.name, "Docs 2"), (.version, "2.0.0")]))),
    (1000, .get "docs"),
    (400000, .sync [none, some { fields [(.name, "Docs 3"),
      (.status, "candidate"), (.source, "project")] with }]),
    (1000, .get "docs"), (1000, .delete "docs"), (1000, .get "docs")]

theorem fitting_read : Throughout marketStep TellsLast {} fitting :=
  reads_last_write fitting (by decide +kernel)

end ReadsLastWitness

end Worker.Marketplace
