/-
Models that are uploaded to the catalog worker and downloaded again, through
JavaScript's numbers.
-/
import Voly.Catalog.Types
import Voly.Worker.Catalog

namespace Voly.Catalog

open Python Worker Worker.Catalog

/-- Its integers and the numbers in its limits come through the worker. -/
def CatalogModel.Portable (model : CatalogModel) : Prop :=
  Kept model.contextWindow ∧ ∀ q ∈ numbersOfFields model.rateLimit, Kept q

def CatalogModel.published (model : CatalogModel) : CatalogModel :=
  { model with enabled := true }

/-- The models of an upload. -/
structure Listed (models : List CatalogModel) : Prop where
  nodup : (models.map CatalogModel.id).Nodup
  named : ∀ model ∈ models, model.id ≠ "" ∧ model.name ≠ ""

/-- `POST /models/sync` with the models as they are written. -/
def upload (now : Nat) (models : List CatalogModel) :
    List ModelRow → List ModelRow :=
  postSync now (models.map CatalogModel.toDict)

/-- `GET /models`, decoded. -/
def download (table : List ModelRow) : Option (List CatalogModel) :=
  (getModels table).mapM CatalogModel.fromDict

theorem Cost.passed (cost : Cost) : ∃ q, Worker.passed cost.value = some q ∧
    Binary64.toFloat q = cost.value := by
  have h := toFloat_passed (Binary64.Finite.ofRat cost.value)
  rwa [← Binary64.toFloat, cost.isFloat] at h

theorem numbersOfItems_map_str (items : List String) :
    numbersOfItems (items.map Json.str) = [] := by
  induction items with
  | nil => rfl
  | cons item items ih =>
      rw [List.map_cons, numbersOfItems, ih, numbers, List.append_nil]

@[simp] theorem pass_ofStrings (items : List String) :
    handOn (.ofStrings items) = .ofStrings items := by
  apply pass_of_kept
  rw [Json.ofStrings, numbers, numbersOfItems_map_str]
  exact fun _ hmem => absurd hmem List.not_mem_nil

/-- A value that the worker takes and sends on as it is. -/
structure Sent (value : Json) : Prop where
  passed : handOn value = value
  field : value ≠ .null ∧ value ≠ .str ""

theorem sent_whenTrue {value shown : Json} (hpass : handOn value = value)
    (h : whenTrue value = some shown) : Sent shown := by
  have hshown := Option.filter_eq_some_iff.mp h
  obtain ⟨hvalue, htrue⟩ := hshown
  cases hvalue
  refine ⟨hpass, ?_, ?_⟩
  · rintro rfl
    exact absurd htrue (by decide)
  · rintro rfl
    exact absurd htrue (by decide)

theorem sent_text {s : String} {shown : Json}
    (h : whenTrue (.str s) = some shown) : Sent shown :=
  sent_whenTrue (by rw [handOn]) h

namespace CatalogModel

variable {model : CatalogModel}

theorem Portable.sent (h : model.Portable) {key : String} {value : Json}
    (hfield : (key, some value) ∈ model.v2Fields) : Sent value := by
  have hwindow : handOn (.num model.contextWindow) =
      .num model.contextWindow := by
    rw [handOn]
    exact passNumber_of_kept h.1
  have hlimit : handOn (.obj model.rateLimit) = .obj model.rateLimit := by
    rw [handOn, passFields_of_kept _ h.2]
  simp only [v2Fields, List.mem_cons, Prod.mk.injEq, List.not_mem_nil,
    or_false] at hfield
  rcases hfield with ⟨_, hv⟩ | ⟨_, hv⟩ | ⟨_, hv⟩ | ⟨_, hv⟩ | ⟨_, hv⟩ |
    ⟨_, hv⟩ | ⟨_, hv⟩ | ⟨_, hv⟩ | ⟨_, hv⟩ | ⟨_, hv⟩ | ⟨_, hv⟩ | ⟨_, hv⟩
  · exact sent_text hv.symm
  · exact sent_whenTrue hwindow hv.symm
  · exact sent_whenTrue (pass_ofStrings _) hv.symm
  · exact sent_whenTrue hlimit hv.symm
  · exact sent_text hv.symm
  · exact sent_text hv.symm
  · -- a flag is sent on when it is false, too
    obtain ⟨flag, _, rfl⟩ := Option.map_eq_some_iff.mp hv.symm
    exact ⟨by rw [handOn], Json.noConfusion, Json.noConfusion⟩
  · exact sent_text hv.symm
  · exact sent_text hv.symm
  · exact sent_text hv.symm
  · exact sent_whenTrue (by rw [handOn]) hv.symm
  · exact sent_text hv.symm

theorem v2Field_sent {body : Dict Json} {key : String} {value : Option Json}
    (h : body.get? key = value) (hsent : ∀ v, value = some v → Sent v) :
    v2Field body key = value := by
  cases value with
  | none => rw [v2Field, given, h]
  | some v =>
      obtain ⟨hnull, hempty⟩ := (hsent v rfl).field
      have hgiven : given body key = some v := by
        rw [given, h]
        cases v with
        | null => exact absurd rfl hnull
        | _ => rfl
      rw [v2Field, hgiven]
      cases v with
      | str s =>
          have hs : s ≠ "" := fun hs => hempty (congrArg Json.str hs)
          exact if_neg hs
      | _ => rfl

def row (model : CatalogModel) (now : Nat) : ModelRow :=
  { id := model.id
    name := model.name
    provider := model.provider
    tier := model.tier
    inputCostPer1m := passNumber model.inputCostPer1m.value
    outputCostPer1m := passNumber model.outputCostPer1m.value
    executorCompat := .ofStrings model.executorCompat
    strengths := .ofStrings model.strengths
    enabled := 1
    updatedAt := now
    metadata := buildMetadata (passFields model.toDict) }

section Bodies

variable {body : Dict Json} {key : String}

theorem given_pass {value : Json} (h : body.get? key = some value)
    (hnull : handOn value ≠ .null) :
    given (passFields body) key = some (handOn value) := by
  rw [given, get?_passFields, h, Option.map_some]
  cases hvalue : handOn value with
  | null => exact absurd hvalue hnull
  | _ => rfl

theorem textGiven_pass {s default : String}
    (h : body.get? key = some (.str s)) :
    textGiven (passFields body) key default = s := by
  have hpass : handOn (.str s) = .str s := by rw [handOn]
  rw [textGiven, given_pass h (by rw [hpass]; exact Json.noConfusion), hpass]

theorem given_ofStrings {items : List String} {default : Json}
    (h : body.get? key = some (.ofStrings items)) :
    (given (passFields body) key).getD default = .ofStrings items := by
  have hnull : handOn (.ofStrings items) ≠ .null := by
    rw [pass_ofStrings]
    exact Json.noConfusion
  rw [given_pass h hnull, pass_ofStrings, Option.getD_some]

theorem numberGiven_pass {cost : Cost}
    (h : body.get? key = some (.num cost.value)) :
    numberGiven (passFields body) key = passNumber cost.value := by
  obtain ⟨q, hq, _⟩ := cost.passed
  have hpass : handOn (.num cost.value) = passNumber cost.value := by
    rw [handOn]
  have hnull : handOn (.num cost.value) ≠ .null := by
    rw [hpass, passNumber, hq]
    exact Json.noConfusion
  rw [numberGiven, given_pass h hnull, hpass, Option.getD_some]

end Bodies

theorem syncRow_toDict (now : Nat) (hid : model.id ≠ "")
    (hname : model.name ≠ "") :
    syncRow now (passFields model.toDict) = some (model.row now) := by
  have hnamed : ∀ default,
      textGiven (passFields model.toDict) "name" default = model.name := by
    intro default
    apply textGiven_pass
    change some (Json.str (orElse model.name model.id)) = _
    rw [orElse, if_neg hname]
  have hgiven : textGiven (passFields model.toDict) "id" "" = model.id :=
    textGiven_pass rfl
  have hprovider : textGiven (passFields model.toDict) "provider" "" =
      model.provider := textGiven_pass rfl
  have htier : textGiven (passFields model.toDict) "tier" "standard" =
      model.tier := textGiven_pass rfl
  have hinput : numberGiven (passFields model.toDict) "input_cost_per_1m" =
      passNumber model.inputCostPer1m.value := numberGiven_pass rfl
  have houtput : numberGiven (passFields model.toDict) "output_cost_per_1m" =
      passNumber model.outputCostPer1m.value := numberGiven_pass rfl
  have hcompat : (given (passFields model.toDict) "executor_compat").getD
      (.ofStrings ["zen"]) = .ofStrings model.executorCompat :=
    given_ofStrings rfl
  have hstrengths : (given (passFields model.toDict) "strengths").getD
      (.arr []) = .ofStrings model.strengths :=
    given_ofStrings rfl
  simp only [syncRow, hgiven, if_neg hid, hnamed, hprovider, htier, hinput,
    houtput, hcompat, hstrengths, row]

theorem get?_columns (now : Nat) {key : String} (hkey : key ∈ v2Keys) :
    (parseModel { model.row now with metadata := [] }).get? key = none := by
  apply Dict.get?_eq_none
  change key ∉ ["id", "name", "provider", "tier", "input_cost_per_1m",
    "output_cost_per_1m", "executor_compat", "strengths", "enabled",
    "updated_at"]
  revert key
  decide

theorem row_shows_v2 (h : model.Portable) (now : Nat) {key : String}
    {value : Option Json} (hfield : (key, value) ∈ model.v2Fields) :
    (parseModel (model.row now)).get? key = value := by
  have hmem : key ∈ model.v2Fields.map Prod.fst := List.mem_map_of_mem hfield
  have hkey : key ∈ v2Keys := hmem
  have hsent : ∀ v, value = some v → Sent v := by
    rintro v rfl
    exact h.sent hfield
  have hbody : Dict.get? (passFields model.toDict) key = value := by
    rw [get?_passFields, model.get?_toDict hfield]
    cases value with
    | none => rfl
    | some v => rw [Option.map_some, (hsent v rfl).passed]
  rw [get?_parseModel (model.row now) rfl, if_pos hkey,
    v2Field_sent hbody hsent, get?_columns now hkey, Option.or_none]

theorem row_shows (h : model.Portable) (now : Nat) :
    model.published.ShownBy (parseModel (model.row now)) := by
  have hother : ∀ key, key ∉ v2Keys → (parseModel (model.row now)).get? key =
      (parseModel { model.row now with metadata := [] }).get? key := by
    intro key hkey
    rw [get?_parseModel (model.row now) rfl, if_neg hkey, Option.none_or]
  have hcost : ∀ cost : Cost, ∃ q, passNumber cost.value = .num q ∧
      Binary64.toFloat q = cost.value := by
    intro cost
    obtain ⟨q, hq, hread⟩ := cost.passed
    refine ⟨q, ?_, hread⟩
    rw [passNumber, hq, Option.map_some, Option.getD_some]
  obtain ⟨input, hinput, hinputCost⟩ := hcost model.inputCostPer1m
  obtain ⟨output, houtput, houtputCost⟩ := hcost model.outputCostPer1m
  have hcolumns : ∀ row : ModelRow,
      (parseModel { row with metadata := [] }).get? "input_cost_per_1m" =
        some row.inputCostPer1m ∧
      (parseModel { row with metadata := [] }).get? "output_cost_per_1m" =
        some row.outputCostPer1m := fun _ => ⟨rfl, rfl⟩
  have hin : (parseModel (model.row now)).get? "input_cost_per_1m" =
      some (passNumber model.inputCostPer1m.value) := by
    rw [hother "input_cost_per_1m" (by decide), (hcolumns _).1, row]
  have hout : (parseModel (model.row now)).get? "output_cost_per_1m" =
      some (passNumber model.outputCostPer1m.value) := by
    rw [hother "output_cost_per_1m" (by decide), (hcolumns _).2, row]
  rw [hinput] at hin
  rw [houtput] at hout
  exact
    { id := hother "id" (by decide)
      name := hother "name" (by decide)
      provider := hother "provider" (by decide)
      tier := hother "tier" (by decide)
      inputCost := ⟨input, hin, hinputCost⟩
      outputCost := ⟨output, hout, houtputCost⟩
      executorCompat := hother "executor_compat" (by decide)
      strengths := hother "strengths" (by decide)
      enabled := hother "enabled" (by decide)
      v2 := fun _ _ hfield => row_shows_v2 h now hfield }

end CatalogModel

/-- The row is listed, and is read as the model. -/
structure Shows (row : ModelRow) (model : CatalogModel) : Prop where
  id : row.id = model.id
  enabled : row.enabled = 1
  read : CatalogModel.fromDict (parseModel row) = some model

/-- The table holds the models, in some order. -/
structure Serves (table : List ModelRow) (models : List CatalogModel) :
    Prop where
  nodup : (table.map ModelRow.id).Nodup
  shown : ∃ rows, table.Perm rows ∧ List.Forall₂ Shows rows models

/-- The catalog after an upload: models of other ids stay as they are. -/
def relisted (models before : List CatalogModel) : List CatalogModel :=
  (before.filter fun held => held.id ∉ models.map CatalogModel.id) ++
    models.map CatalogModel.published

section Tables

variable {table rows : List ModelRow} {models before : List CatalogModel}

theorem shows_row (model : CatalogModel) (h : model.Portable) (now : Nat) :
    Shows (model.row now) model.published :=
  ⟨rfl, rfl, (CatalogModel.row_shows h now).fromDict⟩

theorem upload_rows (h : Listed models) (now : Nat) :
    ((models.map CatalogModel.toDict).filterMap fun body =>
      syncRow now (passFields body)) =
        models.map fun model => model.row now := by
  rw [List.filterMap_map, ← List.filterMap_eq_map]
  refine List.filterMap_congr fun model hmem => ?_
  obtain ⟨hid, hname⟩ := h.named model hmem
  exact model.syncRow_toDict now hid hname

theorem shows_rows (hportable : ∀ model ∈ models, model.Portable)
    (now : Nat) : List.Forall₂ Shows (models.map fun model => model.row now)
      (models.map CatalogModel.published) := by
  induction models with
  | nil => exact List.Forall₂.nil
  | cons model rest ih =>
      exact List.Forall₂.cons
        (shows_row model (hportable model List.mem_cons_self) now)
        (ih fun other hmem => hportable other (List.mem_cons_of_mem _ hmem))

theorem shows_filter (ids : List String) (h : List.Forall₂ Shows rows before) :
    List.Forall₂ Shows (rows.filter fun row => row.id ∉ ids)
      (before.filter fun model => model.id ∉ ids) := by
  induction h with
  | nil => exact List.Forall₂.nil
  | @cons row model rows models hshows _ ih =>
      by_cases hid : model.id ∈ ids
      · simpa [hshows.id, hid] using ih
      · have hrest := List.Forall₂.cons hshows ih
        simpa [hshows.id, hid] using hrest

theorem Serves.upload (h : Serves table before) (hlisted : Listed models)
    (hportable : ∀ model ∈ models, model.Portable) (now : Nat) :
    Serves (upload now models table) (relisted models before) := by
  obtain ⟨rows, hperm, hshown⟩ := h.shown
  have hids : (models.map fun model => model.row now).map ModelRow.id =
      models.map CatalogModel.id := by
    rw [List.map_map]
    rfl
  have hnew : ((models.map fun model => model.row now).map
      ModelRow.id).Nodup := by
    rw [hids]
    exact hlisted.nodup
  have hput := Keyed.putAll_perm hnew h.nodup
  rw [hids] at hput
  rw [Voly.Catalog.upload, postSync, upload_rows hlisted]
  have hshows := List.rel_append
    (shows_filter (models.map CatalogModel.id) hshown)
    (shows_rows hportable now)
  have hrows := (hperm.filter fun held =>
    held.id ∉ models.map CatalogModel.id).append_right
      (models.map fun model => model.row now)
  exact ⟨Keyed.nodup_putAll h.nodup, _, hput.trans hrows, hshows⟩

theorem enabled_of_shows (h : List.Forall₂ Shows rows models) :
    ∀ row ∈ rows, row.enabled = 1 := by
  induction h with
  | nil => exact fun _ hmem => absurd hmem List.not_mem_nil
  | cons hshows _ ih =>
      intro row hmem
      rcases List.mem_cons.mp hmem with rfl | hmem
      · exact hshows.enabled
      · exact ih row hmem

theorem mapM_of_shows (h : List.Forall₂ Shows rows models) :
    (rows.map parseModel).mapM CatalogModel.fromDict = some models := by
  induction h with
  | nil => rfl
  | cons hshows _ ih =>
      rw [List.map_cons, List.mapM_cons, hshows.read, ih]
      rfl

theorem Serves.download (h : Serves table models) :
    ∃ got, download table = some got ∧ got.Perm models := by
  obtain ⟨rows, hperm, hshown⟩ := h.shown
  have hkept : (table.filter fun row =>
      row.enabled = 1 && (("" : String) = "" || row.tier = "")) = table := by
    refine List.filter_eq_self.mpr fun row hmem => ?_
    simp [enabled_of_shows hshown row (hperm.mem_iff.mp hmem)]
  have hsorted : (table.mergeSort rowLe).Perm rows :=
    (List.mergeSort_perm table rowLe).trans hperm
  obtain ⟨got, hgot, hperm⟩ := List.perm_comp_forall₂ hsorted hshown
  refine ⟨got, ?_, hperm⟩
  have hall : (((table.mergeSort rowLe).map parseModel).filter fun model =>
      !false || isVerified model) = (table.mergeSort rowLe).map parseModel :=
    List.filter_eq_self.mpr fun _ _ => rfl
  rw [Voly.Catalog.download, getModels, hkept, hall]
  exact mapM_of_shows hgot

end Tables

/-- The table after uploads, each at its time. -/
def served (uploads : List (Nat × List CatalogModel)) : List ModelRow :=
  uploads.foldl (fun table call => upload call.1 call.2 table) []

/-- The catalog after uploads. -/
def listing (uploads : List (Nat × List CatalogModel)) :
    List CatalogModel :=
  uploads.foldl (fun before call => relisted call.2 before) []

theorem serves_empty : Serves [] [] :=
  ⟨List.nodup_nil, [], List.Perm.nil, List.Forall₂.nil⟩

theorem serves_run (uploads : List (Nat × List CatalogModel))
    (h : ∀ call ∈ uploads, Listed call.2 ∧
      ∀ model ∈ call.2, model.Portable) :
    Serves (served uploads) (listing uploads) := by
  have hrun : ∀ (table : List ModelRow) (before : List CatalogModel),
      Serves table before →
      Serves (uploads.foldl (fun table call => upload call.1 call.2 table)
          table)
        (uploads.foldl (fun before call => relisted call.2 before)
          before) := by
    induction uploads with
    | nil => exact fun _ _ hserves => hserves
    | cons call rest ih =>
        intro table before hserves
        obtain ⟨hlisted, hportable⟩ := h call List.mem_cons_self
        exact ih (fun other hmem => h other (List.mem_cons_of_mem _ hmem)) _ _
          (hserves.upload hlisted hportable call.1)
  exact hrun [] [] serves_empty

/-- Models come back from the file, and from the worker where numbers do. -/
theorem catalog_round_trip :
    (∀ models, Listed models →
      loadModels (savedModels models) = some models) ∧
    (∀ now models, Listed models → (∀ model ∈ models, model.Portable) →
      ∃ got, download (upload now models []) = some got ∧
        got.Perm (models.map CatalogModel.published)) ∧
    ∀ uploads now changed,
      (∀ call ∈ uploads, Listed call.2 ∧
        ∀ model ∈ call.2, model.Portable) →
      Listed changed → (∀ model ∈ changed, model.Portable) →
      ∃ before after, download (served uploads) = some before ∧
        download (upload now changed (served uploads)) = some after ∧
        after.Perm (relisted changed before) := by
  refine ⟨fun models h => ?_, fun now models h hportable => ?_,
    fun uploads now changed huploads h hportable => ?_⟩
  · exact loadModels_savedModels models h.named
  · exact (serves_empty.upload h hportable now).download
  · have hserves := serves_run uploads huploads
    obtain ⟨before, hbefore, hheld⟩ := hserves.download
    obtain ⟨after, hafter, hchanged⟩ :=
      (hserves.upload h hportable now).download
    refine ⟨before, after, hbefore, hafter, ?_⟩
    have hsame := (hheld.filter fun held =>
      held.id ∉ changed.map CatalogModel.id).append_right
        (changed.map CatalogModel.published)
    exact hchanged.trans hsame.symm

namespace SyncedWitness

def vast : CatalogModel :=
  { id := "vast", name := "Vast", contextWindow := 2 ^ 53 + 1 }

theorem vast_listed : Listed [vast] := by
  refine ⟨List.nodup_singleton _, fun model hmem => ?_⟩
  rw [List.mem_singleton.mp hmem]
  decide

theorem download_one (model : CatalogModel) (h : Listed [model]) :
    download (upload 0 [model] []) =
      [parseModel (model.row 0)].mapM CatalogModel.fromDict := by
  have hrows := upload_rows h 0
  rw [List.map_singleton] at hrows
  rw [download, upload, postSync, List.map_singleton, hrows]
  have hrow : getModels [model.row 0] = [parseModel (model.row 0)] := by
    simp [getModels, CatalogModel.row]
  exact congrArg _ hrow

/-- Its window is read as the nearest double. -/
theorem window_changed : ¬∀ now models, Listed models →
    ∃ got, download (upload now models []) = some got ∧
      got.Perm (models.map CatalogModel.published) := by
  intro h
  obtain ⟨got, hgot, hperm⟩ := h 0 [vast] vast_listed
  have hread : ([parseModel (vast.row 0)].mapM CatalogModel.fromDict).map
      (fun models => models.map CatalogModel.contextWindow) =
        some [2 ^ 53] := by
    decide +kernel
  rw [download_one vast vast_listed] at hgot
  rw [hgot, List.perm_singleton.mp hperm] at hread
  exact absurd hread (by decide)

def small : CatalogModel :=
  { id := "small"
    name := "Small"
    provider := "zen"
    inputCostPer1m := Cost.read (3 / 20)
    executorCompat := []
    enabled := false
    contextWindow := 200000
    rateLimit := [("rpm", .num 20), ("share", .num (1 / 4))]
    supportsTools := some false
    verified := true }

def cheap : CatalogModel := { small with rateLimit := [], provider := "free" }

theorem small_listed : Listed [small] := by
  refine ⟨List.nodup_singleton _, fun model hmem => ?_⟩
  rw [List.mem_singleton.mp hmem]
  decide

theorem cheap_listed : Listed [cheap] := by
  refine ⟨List.nodup_singleton _, fun model hmem => ?_⟩
  rw [List.mem_singleton.mp hmem]
  decide

theorem small_portable : ∀ model ∈ [small], model.Portable := by
  intro model hmem
  rw [List.mem_singleton.mp hmem]
  refine ⟨?_, ?_⟩
  · decide +kernel
  · decide +kernel

theorem cheap_portable : ∀ model ∈ [cheap], model.Portable := by
  intro model hmem
  rw [List.mem_singleton.mp hmem]
  refine ⟨?_, ?_⟩
  · decide +kernel
  · decide +kernel

/-- The model is saved, uploaded, and changed by a second upload. -/
theorem small_synced :
    loadModels (savedModels [small]) = some [small] ∧
    (∃ got, download (upload 7 [small] []) = some got ∧
      got.Perm [small.published]) ∧
    ∃ before after, download (served [(7, [small])]) = some before ∧
      download (upload 8 [cheap] (served [(7, [small])])) = some after ∧
      after.Perm (relisted [cheap] before) := by
  obtain ⟨hfile, hfirst, hagain⟩ := catalog_round_trip
  refine ⟨hfile [small] small_listed,
    hfirst 7 [small] small_listed small_portable,
    hagain [(7, [small])] 8 [cheap] (fun call hmem => ?_) cheap_listed
      cheap_portable⟩
  rw [List.mem_singleton.mp hmem]
  exact ⟨small_listed, small_portable⟩

end SyncedWitness

end Voly.Catalog
