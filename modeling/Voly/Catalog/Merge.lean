/-
The merge of imported models into a catalog, by id, or by provider and upstream
id.
-/
import Voly.Catalog.Types

namespace Voly.Catalog

open Python

def findLegacyId (result : Dict CatalogModel) (imp : CatalogModel) :
    Option String :=
  (result.find? fun row => row.2.id = imp.upstreamModelId ∧
    row.2.provider = imp.provider).map Prod.fst

/-- The fields that are not named are those of the existing row. -/
def mergeModel (ex imp : CatalogModel) : CatalogModel :=
  { ex with
    name := orElse ex.name imp.name
    provider := orElse ex.provider imp.provider
    baseUrl := orElse imp.baseUrl ex.baseUrl
    contextWindow :=
      if imp.contextWindow = 0 then ex.contextWindow else imp.contextWindow
    modalities :=
      if imp.modalities.isEmpty then ex.modalities else imp.modalities
    rateLimit := if imp.rateLimit.isEmpty then ex.rateLimit else imp.rateLimit
    authRequirement := orElse imp.authRequirement ex.authRequirement
    apiKeyUrl := orElse imp.apiKeyUrl ex.apiKeyUrl
    supportsTools := ex.supportsTools.or imp.supportsTools
    sourceUrl := orElse imp.sourceUrl ex.sourceUrl
    upstreamModelId := orElse ex.upstreamModelId imp.upstreamModelId
    sourceUpdatedAt := orElse imp.sourceUpdatedAt ex.sourceUpdatedAt }

/-- The id of the row that an imported model goes to. -/
def targetId (result : Dict CatalogModel) (imp : CatalogModel) : String :=
  if (result.get? imp.id).isSome then imp.id
  else (findLegacyId result imp).getD imp.id

def rowWith (imp : CatalogModel) : Option CatalogModel → CatalogModel
  | some ex => mergeModel ex imp
  | none => imp

def mergeOne (result : Dict CatalogModel) (imp : CatalogModel) :
    Dict CatalogModel :=
  result.set (targetId result imp)
    (rowWith imp (result.get? (targetId result imp)))

/-- `{m.id: m for m in existing}`. -/
def byId (models : List CatalogModel) : Dict CatalogModel :=
  models.foldl (fun result model => result.set model.id model) []

def mergeAll (result : Dict CatalogModel) (imported : List CatalogModel) :
    Dict CatalogModel :=
  imported.foldl mergeOne result

def mergeWithCatalog (existing imported : List CatalogModel) :
    List CatalogModel :=
  (mergeAll (byId existing) imported).map Prod.snd

/-- An imported list: distinct ids, each of the provider and the upstream id. -/
structure Import (imported : List CatalogModel) : Prop where
  nodup : (imported.map CatalogModel.id).Nodup
  qualified : ∀ imp ∈ imported, imp.id = imp.provider ++ ":" ++
    imp.upstreamModelId

/-- What a merge keeps of a row. -/
def CatalogModel.kept (model : CatalogModel) :=
  (model.id, model.tier, model.inputCostPer1m, model.outputCostPer1m,
    model.executorCompat, model.strengths, model.enabled, model.verified,
    model.lastVerifiedAt)

/-- A row has the provider and the upstream id of an imported model. -/
def Represents (row imp : CatalogModel) : Prop :=
  row.provider = imp.provider ∧ row.upstreamModelId = imp.upstreamModelId

/-- The row an imported model goes to when the ones before it are merged. -/
def targetAfter (existing before : List CatalogModel) (imp : CatalogModel) :
    String :=
  targetId (mergeAll (byId existing) before) imp

/-- Every existing model is there with what a merge keeps. -/
def KeepsRows (existing imported : List CatalogModel) : Prop :=
  ∀ ex ∈ existing, ∃ row ∈ mergeWithCatalog existing imported,
    row.kept = ex.kept

structure MergeLaws (existing imported : List CatalogModel) : Prop where
  represented : ∀ before imp rest, imported = before ++ imp :: rest →
    ∃ row, (mergeAll (byId existing) imported).get?
      (targetAfter existing before imp) = some row ∧ Represents row imp
  apart : ∀ before imp rest before' imp' rest',
    imported = before ++ imp :: rest → imported = before' ++ imp' :: rest' →
    targetAfter existing before imp = targetAfter existing before' imp' →
    imp = imp'
  order : ∀ imported', imported'.Perm imported →
    (mergeWithCatalog existing imported').Perm
      (mergeWithCatalog existing imported)
  again : mergeWithCatalog (mergeWithCatalog existing imported) imported =
    mergeWithCatalog existing imported

/-- A row's provider and upstream id are empty or the imported model's. -/
def Agrees (ex imp : CatalogModel) : Prop :=
  (ex.provider = "" ∨ ex.provider = imp.provider) ∧
    (ex.upstreamModelId = "" ∨ ex.upstreamModelId = imp.upstreamModelId)

/-- The rows of the catalog agree with what goes to them, and no new id is
taken for a legacy one. -/
structure Fits (rows : Dict CatalogModel) (imported : List CatalogModel) :
    Prop where
  agrees : ∀ imp ∈ imported, ∀ ex ∈ rows.get? (targetId rows imp),
    Agrees ex imp
  free : ∀ imp ∈ imported, ∀ other ∈ imported, rows.get? imp.id = none →
    other.id = imp.upstreamModelId → targetId rows other = other.id →
    targetId rows imp ≠ other.id ∧ other.provider ≠ imp.provider

/-- Every row is kept under its own id. -/
structure Table (rows : Dict CatalogModel) : Prop where
  nodup : rows.keys.Nodup
  keyed : ∀ row ∈ rows, row.2.id = row.1

section

variable {rows : Dict CatalogModel} {ex imp other : CatalogModel} {id : String}

theorem Table.id_of_get? (h : Table rows) (hget : rows.get? id = some ex) :
    ex.id = id :=
  h.keyed _ (Dict.mem_of_get? hget)

/-- The row under the upstream id has the provider. -/
def Legacy (rows : Dict CatalogModel) (imp : CatalogModel) : Prop :=
  ∃ ex, rows.get? imp.upstreamModelId = some ex ∧ ex.provider = imp.provider

theorem findLegacyId_some (h : Table rows) (hlegacy : Legacy rows imp) :
    findLegacyId rows imp = some imp.upstreamModelId := by
  obtain ⟨ex, hget, hprovider⟩ := hlegacy
  have hid := h.id_of_get? hget
  cases hfind : rows.find? fun row => row.2.id = imp.upstreamModelId ∧
      row.2.provider = imp.provider with
  | none =>
      have hnot := List.find?_eq_none.mp hfind _ (Dict.mem_of_get? hget)
      exact absurd (decide_eq_true ⟨hid, hprovider⟩) hnot
  | some row =>
      have hrow : row.2.id = imp.upstreamModelId ∧
          row.2.provider = imp.provider := by
        simpa using List.find?_some hfind
      rw [findLegacyId, hfind, Option.map_some,
        ← h.keyed row (List.mem_of_find?_eq_some hfind), hrow.1]

theorem findLegacyId_none (h : Table rows) (hlegacy : ¬Legacy rows imp) :
    findLegacyId rows imp = none := by
  rw [findLegacyId, Option.map_eq_none_iff, List.find?_eq_none]
  intro row hmem hrow
  obtain ⟨hid, hprovider⟩ := of_decide_eq_true hrow
  refine hlegacy ⟨row.2, ?_, hprovider⟩
  rw [← hid, h.keyed row hmem]
  exact Dict.get?_of_mem h.nodup hmem

theorem targetId_own (h : (rows.get? imp.id).isSome) :
    targetId rows imp = imp.id :=
  if_pos h

theorem targetId_legacy (h : Table rows) (hnone : rows.get? imp.id = none)
    (hlegacy : Legacy rows imp) :
    targetId rows imp = imp.upstreamModelId := by
  rw [targetId, hnone, findLegacyId_some h hlegacy]
  rfl

theorem targetId_new (h : Table rows) (hlegacy : ¬Legacy rows imp) :
    targetId rows imp = imp.id := by
  rw [targetId, findLegacyId_none h hlegacy, Option.getD_none, ite_self]

theorem targetId_cases (h : Table rows) (imp : CatalogModel) :
    targetId rows imp = imp.id ∨ rows.get? imp.id = none ∧ Legacy rows imp ∧
      targetId rows imp = imp.upstreamModelId := by
  cases hget : rows.get? imp.id with
  | some ex => exact Or.inl (targetId_own (hget ▸ rfl))
  | none =>
      by_cases hlegacy : Legacy rows imp
      · exact Or.inr ⟨rfl, hlegacy, targetId_legacy h hget hlegacy⟩
      · exact Or.inl (targetId_new h hlegacy)

theorem get?_mergeOne : (mergeOne rows imp).get? id =
    if targetId rows imp = id then some (rowWith imp (rows.get? id))
    else rows.get? id := by
  rw [mergeOne, Dict.get?_set]
  split
  · next htarget => rw [htarget]
  · rfl

theorem Table.mergeOne (h : Table rows) (imp : CatalogModel) :
    Table (mergeOne rows imp) := by
  refine ⟨Dict.nodup_set h.nodup _ _, fun row hrow => ?_⟩
  rcases Dict.mem_set hrow with rfl | hrow
  · cases hget : rows.get? (targetId rows imp) with
    | some ex =>
        have hid : ex.id = targetId rows imp := h.id_of_get? hget
        exact hid
    | none =>
        rcases targetId_cases h imp with hid | ⟨-, ⟨ex, hex, -⟩, hid⟩
        · exact hid.symm
        · rw [hid, hex] at hget
          cases hget
  · exact h.keyed row hrow

theorem Table.mergeAll (h : Table rows) (imported : List CatalogModel) :
    Table (mergeAll rows imported) := by
  induction imported generalizing rows with
  | nil => exact h
  | cons imp rest ih => exact ih (h.mergeOne imp)

theorem byId_eq {models : List CatalogModel}
    (h : (models.map CatalogModel.id).Nodup) :
    byId models = models.map fun model => (model.id, model) := by
  suffices hfrom : ∀ front : Dict CatalogModel,
      (front.keys ++ models.map CatalogModel.id).Nodup →
      models.foldl (fun result model => result.set model.id model) front =
        front ++ models.map fun model => (model.id, model) from
    hfrom [] h
  clear h
  induction models with
  | nil => exact fun front _ => (List.append_nil front).symm
  | cons model rest ih =>
      intro front hnodup
      have hfresh : model.id ∉ front.keys := fun hmem =>
        (List.nodup_append.mp hnodup).2.2 _ hmem _ List.mem_cons_self rfl
      rw [List.foldl_cons, Dict.set_of_notMem hfresh, ih]
      · rw [List.append_assoc]
        rfl
      · rw [Dict.keys, List.map_append, List.append_assoc]
        exact hnodup

theorem table_byId {models : List CatalogModel}
    (h : (models.map CatalogModel.id).Nodup) : Table (byId models) := by
  rw [byId_eq h]
  refine ⟨?_, fun row hrow => ?_⟩
  · rw [Dict.keys, List.map_map]
    exact h
  · obtain ⟨model, -, rfl⟩ := List.mem_map.mp hrow
    rfl

theorem Table.byId_values (h : Table rows) :
    byId (rows.map Prod.snd) = rows := by
  have hids : (rows.map Prod.snd).map CatalogModel.id = rows.keys := by
    rw [List.map_map]
    exact List.map_congr_left h.keyed
  rw [byId_eq (hids ▸ h.nodup), List.map_map]
  refine (List.map_congr_left fun row hrow => ?_).trans (List.map_id rows)
  exact Prod.ext (h.keyed row hrow) rfl

theorem Table.perm {rows' : Dict CatalogModel} (h : Table rows)
    (h' : Table rows') (hget : ∀ id, rows.get? id = rows'.get? id) :
    rows.Perm rows' := by
  refine (List.perm_ext_iff_of_nodup (List.Nodup.of_map _ h.nodup)
    (List.Nodup.of_map _ h'.nodup)).mpr fun row => ⟨fun hrow => ?_,
      fun hrow => ?_⟩
  · exact Dict.mem_of_get? ((hget _).symm.trans (Dict.get?_of_mem h.nodup hrow))
  · exact Dict.mem_of_get? ((hget _).trans (Dict.get?_of_mem h'.nodup hrow))

theorem kept_mergeAll (imported : List CatalogModel)
    (h : rows.get? id = some ex) :
    ∃ row, (mergeAll rows imported).get? id = some row ∧
      row.kept = ex.kept := by
  induction imported generalizing rows ex with
  | nil => exact ⟨ex, h, rfl⟩
  | cons imp rest ih =>
      by_cases htarget : targetId rows imp = id
      · exact @ih (mergeOne rows imp) (mergeModel ex imp)
          (by rw [get?_mergeOne, if_pos htarget, h]; rfl)
      · exact ih (by rw [get?_mergeOne, if_neg htarget, h])

end

theorem orElse_agrees {a b : String} (h : a = "" ∨ a = b) :
    orElse a b = b := by
  rcases h with rfl | rfl
  · rfl
  · exact orElse_self a

section

variable {rows : Dict CatalogModel} {imported before : List CatalogModel}
  {imp other : CatalogModel} {id : String}

theorem Import.eq (h : Import imported) (himp : imp ∈ imported)
    (hother : other ∈ imported) (heq : Represents imp other) : imp = other := by
  refine List.inj_on_of_nodup_map h.nodup himp hother ?_
  rw [h.qualified imp himp, h.qualified other hother, heq.1, heq.2]

theorem rowWith_represents {ex? : Option CatalogModel}
    (h : ∀ ex ∈ ex?, Agrees ex imp) : Represents (rowWith imp ex?) imp := by
  cases ex? with
  | none => exact ⟨rfl, rfl⟩
  | some ex =>
      obtain ⟨hprovider, hupstream⟩ := h ex rfl
      exact ⟨orElse_agrees hprovider, orElse_agrees hupstream⟩

theorem mergeModel_rowWith (imp : CatalogModel) (ex? : Option CatalogModel) :
    mergeModel (rowWith imp ex?) imp = rowWith imp ex? := by
  have hfirst (a b : String) : orElse (orElse a b) b = orElse a b := by
    unfold orElse
    split <;> simp_all
  have hlast (a b : String) : orElse b (orElse b a) = orElse b a := by
    unfold orElse
    split <;> rfl
  cases ex? with
  | none => simp [rowWith, mergeModel]
  | some ex =>
      simp only [rowWith, mergeModel, hfirst, hlast, Option.or_assoc,
        Option.or_self, CatalogModel.mk.injEq, true_and, and_true]
      refine ⟨?_, ?_, ?_⟩ <;> split <;> rfl

theorem of_find?_target
    (h : (before.find? fun imp => targetId rows imp = id) = some other) :
    other ∈ before ∧ targetId rows other = id :=
  ⟨List.mem_of_find?_eq_some h, by simpa using List.find?_some h⟩

section

variable (htable : Table rows) (himports : Import imported)
  (hfits : Fits rows imported)
include htable himports hfits

/-- No two imported models go to the same row of the catalog. -/
theorem targetId_inj (himp : imp ∈ imported) (hother : other ∈ imported)
    (htarget : targetId rows imp = targetId rows other) : imp = other := by
  have hids := List.inj_on_of_nodup_map himports.nodup himp hother
  rcases targetId_cases htable imp with hid | ⟨hnone, ⟨ex, hex, hprovider⟩, hid⟩
  · rcases targetId_cases htable other with hid' | ⟨hnone', -, hid'⟩
    · exact hids (hid.symm.trans (htarget.trans hid'))
    · have hup := hid.symm.trans (htarget.trans hid')
      exact absurd (htarget.symm.trans hid)
        (hfits.free other hother imp himp hnone' hup hid).1
  · rcases targetId_cases htable other with hid' | ⟨-, ⟨ex', hex', hprovider'⟩,
      hid'⟩
    · have hup := hid'.symm.trans (htarget.symm.trans hid)
      exact absurd (htarget.trans hid')
        (hfits.free imp himp other hother hnone hup hid').1
    · have hup := hid.symm.trans (htarget.trans hid')
      rw [hup, hex'] at hex
      cases hex
      exact himports.eq himp hother ⟨hprovider.symm.trans hprovider', hup⟩

/-- The rows when each imported model has gone to its row of the catalog. -/
def met (rows : Dict CatalogModel) (before : List CatalogModel) (id : String) :
    Option CatalogModel :=
  match before.find? fun imp => targetId rows imp = id with
  | some imp => some (rowWith imp (rows.get? id))
  | none => rows.get? id

theorem legacy_met {now : Dict CatalogModel} (hsub : before ⊆ imported)
    (hmet : ∀ id, now.get? id = met rows before id) (himp : imp ∈ imported)
    (hnone : rows.get? imp.id = none) : Legacy now imp ↔ Legacy rows imp := by
  unfold Legacy
  rw [hmet, met]
  cases hfind : before.find? fun other =>
      targetId rows other = imp.upstreamModelId with
  | none => rfl
  | some other =>
      obtain ⟨hbefore, htarget⟩ := of_find?_target hfind
      have hmem := hsub hbefore
      have hrow : Represents
          (rowWith other (rows.get? imp.upstreamModelId)) other :=
        rowWith_represents fun ex hex =>
          hfits.agrees other hmem ex (htarget ▸ hex)
      constructor
      · rintro ⟨row, hrow', hprovider⟩
        cases hrow'
        have heq := hrow.1.symm.trans hprovider
        rcases targetId_cases htable other with hid | ⟨-, ⟨ex, hex, hsame⟩, hid⟩
        · exact absurd heq (hfits.free imp himp other hmem hnone
            (hid.symm.trans htarget) hid).2
        · rw [hid] at htarget
          exact ⟨ex, htarget ▸ hex, hsame.trans heq⟩
      · intro hlegacy
        have heq := targetId_inj htable himports hfits hmem himp
          (htarget.trans (targetId_legacy htable hnone hlegacy).symm)
        rw [heq] at hrow ⊢
        exact ⟨_, rfl, hrow.1⟩

/-- The merge so far makes no difference to where a model goes. -/
theorem targetId_met {now : Dict CatalogModel} (hnow : Table now)
    (hsub : before ⊆ imported) (hmet : ∀ id, now.get? id = met rows before id)
    (himp : imp ∈ imported) : targetId now imp = targetId rows imp := by
  cases hown : rows.get? imp.id with
  | some ex =>
      have hsome : (rows.get? imp.id).isSome := by
        rw [hown]
        rfl
      rw [targetId_own hsome]
      apply targetId_own
      rw [hmet, met]
      split
      · rfl
      · rw [hown]
        rfl
  | none =>
      have hlegacy := legacy_met htable himports hfits hsub hmet himp hown
      cases hafter : now.get? imp.id with
      | none =>
          by_cases h : Legacy rows imp
          · rw [targetId_legacy hnow hafter (hlegacy.mpr h),
              targetId_legacy htable hown h]
          · rw [targetId_new hnow (mt hlegacy.mp h), targetId_new htable h]
      | some row =>
          have hsome : (now.get? imp.id).isSome := by
            rw [hafter]
            rfl
          rw [targetId_own hsome]
          rw [hmet, met, hown] at hafter
          split at hafter
          · next other hfind =>
              obtain ⟨hbefore, htarget⟩ := of_find?_target hfind
              have hmem := hsub hbefore
              rcases targetId_cases htable other with hid |
                ⟨-, ⟨ex, hex, -⟩, hid⟩
              · have heq := List.inj_on_of_nodup_map himports.nodup hmem himp
                  (hid.symm.trans htarget)
                rw [← heq, hid]
              · rw [← hid, htarget, hown] at hex
                cases hex
          · cases hafter

theorem get?_mergeAll (hsub : before ⊆ imported) (hnodup : before.Nodup)
    (id : String) : (mergeAll rows before).get? id = met rows before id := by
  induction before using List.reverseRecOn generalizing id with
  | nil => rfl
  | append_singleton before imp ih =>
      obtain ⟨hsubs, hlast⟩ := List.append_subset.mp hsub
      have himp := hlast (List.mem_singleton_self imp)
      obtain ⟨hbefore, -, hfresh⟩ := List.nodup_append.mp hnodup
      have hmet := ih hsubs hbefore
      rw [mergeAll, List.foldl_append, List.foldl_cons, List.foldl_nil,
        ← mergeAll, get?_mergeOne, targetId_met htable himports hfits
          (htable.mergeAll before) hsubs hmet himp, hmet]
      unfold met
      rw [List.find?_append]
      by_cases htarget : targetId rows imp = id
      · have hnone : (before.find? fun other => targetId rows other = id) =
            none := by
          refine List.find?_eq_none.mpr fun other hother heq => ?_
          have hsame := targetId_inj htable himports hfits (hsubs hother) himp
            ((of_decide_eq_true heq).trans htarget.symm)
          exact hfresh other hother imp (List.mem_singleton_self imp) hsame
        simp [hnone, htarget]
      · simp [htarget]

theorem find?_target (hsub : before ⊆ imported) (himp : imp ∈ before) :
    (before.find? fun other => targetId rows other = targetId rows imp) =
      some imp := by
  cases hfind : before.find? fun other =>
      targetId rows other = targetId rows imp with
  | none =>
      have hnot := List.find?_eq_none.mp hfind imp himp
      simp at hnot
  | some other =>
      obtain ⟨hbefore, htarget⟩ := of_find?_target hfind
      rw [targetId_inj htable himports hfits (hsub hbefore) (hsub himp) htarget]

theorem met_perm {imported' : List CatalogModel}
    (hperm : imported'.Perm imported) (id : String) :
    met rows imported' id = met rows imported id := by
  unfold met
  cases hfind : imported'.find? fun imp => targetId rows imp = id with
  | none =>
      have hnone : (imported.find? fun imp => targetId rows imp = id) =
          none := by
        rw [List.find?_eq_none] at hfind ⊢
        exact fun imp himp => hfind imp (hperm.mem_iff.mpr himp)
      rw [hnone]
  | some imp =>
      obtain ⟨hmem, rfl⟩ := of_find?_target hfind
      rw [find?_target htable himports hfits (List.Subset.refl _)
        (hperm.mem_iff.mp hmem)]

/-- Where an imported model goes, its row is found after the merge. -/
theorem get?_target (himp : imp ∈ imported) :
    (mergeAll rows imported).get? (targetId rows imp) =
      some (rowWith imp (rows.get? (targetId rows imp))) := by
  rw [get?_mergeAll htable himports hfits (List.Subset.refl _)
    (List.Nodup.of_map _ himports.nodup), met,
    find?_target htable himports hfits (List.Subset.refl _) himp]

theorem mergeAll_again : mergeAll (mergeAll rows imported) imported =
    mergeAll rows imported := by
  have hone : ∀ imp ∈ imported,
      mergeOne (mergeAll rows imported) imp = mergeAll rows imported := by
    intro imp himp
    have htarget : targetId (mergeAll rows imported) imp = targetId rows imp :=
      targetId_met htable himports hfits (htable.mergeAll imported)
        (List.Subset.refl _) (get?_mergeAll htable himports hfits
          (List.Subset.refl _) (List.Nodup.of_map _ himports.nodup)) himp
    have hrow := get?_target htable himports hfits himp
    rw [mergeOne, htarget, hrow, rowWith, mergeModel_rowWith]
    exact Dict.set_of_get? hrow
  suffices hfrom : ∀ rest, rest ⊆ imported →
      mergeAll (mergeAll rows imported) rest = mergeAll rows imported from
    hfrom imported (List.Subset.refl _)
  intro rest
  induction rest with
  | nil => exact fun _ => rfl
  | cons imp rest ih =>
      intro hsub
      obtain ⟨himp, hrest⟩ := List.cons_subset.mp hsub
      rw [mergeAll, List.foldl_cons, hone imp himp]
      exact ih hrest

end

end

section

variable {existing imported : List CatalogModel}
  (hexisting : (existing.map CatalogModel.id).Nodup)
include hexisting

theorem keepsRows : KeepsRows existing imported := by
  intro ex hex
  have hmem : (ex.id, ex) ∈ byId existing := by
    rw [byId_eq hexisting]
    exact List.mem_map_of_mem hex
  have hget := Dict.get?_of_mem (table_byId hexisting).nodup hmem
  obtain ⟨row, hrow, hkept⟩ := kept_mergeAll imported hget
  exact ⟨row, List.mem_map_of_mem (Dict.mem_of_get? hrow), hkept⟩

end

namespace MergeWitness

/-- A model that a provider lists under an upstream id. -/
def listed (provider upstream : String) : CatalogModel where
  id := provider ++ ":" ++ upstream
  provider
  upstreamModelId := upstream

/-- The second model has the id of the first one as its upstream id. -/
def imports : List CatalogModel := [listed "p" "u", listed "p" "p:u"]

/-- In one order both models become one row, in the other one they are two. -/
theorem merge_depends_on_order :
    (mergeWithCatalog [] imports).map CatalogModel.id = ["p:u"] ∧
      (mergeWithCatalog [] imports.reverse).map CatalogModel.id =
        ["p:p:u", "p:u"] := by
  decide +kernel

end MergeWitness

end Voly.Catalog
