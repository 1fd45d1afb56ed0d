/-
Catalog models: their dictionary form, and the local file of models.
-/
import Voly.Worker.Passage

namespace Voly.Catalog

open Python

def optionalBool : Option Json → Option Bool
  | some (.bool value) => some value
  | some (.str text) =>
      let normalized := lower (strip text)
      if normalized = "true" then some true
      else if normalized = "false" then some false
      else none
  | _ => none

/-- A finite float. -/
structure Cost where
  value : Rat
  isFloat : Binary64.toFloat value = value

/-- `float(q)`. -/
def Cost.read (q : Rat) : Cost :=
  ⟨Binary64.toFloat q, Binary64.toFloat_toFloat q⟩

theorem Cost.ext {x y : Cost} (h : x.value = y.value) : x = y := by
  cases x
  cases y
  cases h
  rfl

structure CatalogModel where
  id : String
  name : String := ""
  provider : String := ""
  tier : String := "standard"
  inputCostPer1m : Cost := Cost.read 0
  outputCostPer1m : Cost := Cost.read 0
  executorCompat : List String := ["zen"]
  strengths : List String := []
  enabled : Bool := true
  baseUrl : String := ""
  contextWindow : Int := 0
  modalities : List String := []
  rateLimit : Dict Json := []
  authRequirement : String := ""
  apiKeyUrl : String := ""
  supportsTools : Option Bool := none
  sourceUrl : String := ""
  upstreamModelId : String := ""
  sourceUpdatedAt : String := ""
  verified : Bool := false
  lastVerifiedAt : String := ""

namespace CatalogModel

def baseFields (model : CatalogModel) : Dict Json := [
  ("id", .str model.id),
  ("name", .str (orElse model.name model.id)),
  ("provider", .str model.provider),
  ("tier", .str model.tier),
  ("input_cost_per_1m", .num model.inputCostPer1m.value),
  ("output_cost_per_1m", .num model.outputCostPer1m.value),
  ("executor_compat", .ofStrings model.executorCompat),
  ("strengths", .ofStrings model.strengths),
  ("enabled", .bool model.enabled)]

/-- The fields that are written where they have no default. -/
def v2Fields (model : CatalogModel) : List (String × Option Json) := [
  ("base_url", whenTrue (.str model.baseUrl)),
  ("context_window", whenTrue (.num model.contextWindow)),
  ("modalities", whenTrue (.ofStrings model.modalities)),
  ("rate_limit", whenTrue (.obj model.rateLimit)),
  ("auth_requirement", whenTrue (.str model.authRequirement)),
  ("api_key_url", whenTrue (.str model.apiKeyUrl)),
  ("supports_tools", model.supportsTools.map Json.bool),
  ("source_url", whenTrue (.str model.sourceUrl)),
  ("upstream_model_id", whenTrue (.str model.upstreamModelId)),
  ("source_updated_at", whenTrue (.str model.sourceUpdatedAt)),
  ("verified", whenTrue (.bool model.verified)),
  ("last_verified_at", whenTrue (.str model.lastVerifiedAt))]

def toDict (model : CatalogModel) : Dict Json :=
  model.baseFields ++ Dict.present model.v2Fields

/-- An empty list is given, no list is not. -/
def executorCompatOf (data : Dict Json) : Option (List String) :=
  if (data.get? "executor_compat").isSome then textsAt data "executor_compat"
  else some ["zen"]

/-- `from_dict`; it raises without an id. -/
def fromDict (data : Dict Json) : Option CatalogModel := do
  let id ← argument data "id" Json.text?
  let name ← argumentOr data "name" Json.text? id
  let provider ← argumentOr data "provider" Json.text? ""
  let tier ← argumentOr data "tier" Json.text? "standard"
  let inputCost ← numberAt data "input_cost_per_1m"
  let outputCost ← numberAt data "output_cost_per_1m"
  let executorCompat ← executorCompatOf data
  let strengths ← textsAt data "strengths"
  let contextWindow ← integerAt data "context_window" 0
  let modalities ← textsAt data "modalities"
  let rateLimit ← objectAt data "rate_limit"
  some {
    id
    name
    provider
    tier
    inputCostPer1m := Cost.read inputCost
    outputCostPer1m := Cost.read outputCost
    executorCompat
    strengths
    enabled := flagAt data "enabled" true
    baseUrl := textAt data "base_url" ""
    contextWindow
    modalities
    rateLimit
    authRequirement := textAt data "auth_requirement" ""
    apiKeyUrl := textAt data "api_key_url" ""
    supportsTools := optionalBool (data.get? "supports_tools")
    sourceUrl := textAt data "source_url" ""
    upstreamModelId := textAt data "upstream_model_id" ""
    sourceUpdatedAt := textAt data "source_updated_at" ""
    verified := optionalBool (data.get? "verified") = some true
    lastVerifiedAt := textAt data "last_verified_at" "" }

end CatalogModel

section Written

variable {data : Dict Json} {key : String}

theorem textAt_whenTrue {s : String}
    (h : data.get? key = whenTrue (.str s)) : textAt data key "" = s := by
  by_cases hs : s = ""
  · simp [textAt, h, whenTrue, Option.filter, Json.truthy, Json.text, hs]
  · simp [textAt, h, whenTrue, Option.filter, Json.truthy, Json.text, hs,
      orElse]

theorem truthy?_whenTrue {value : Json} (h : data.get? key = whenTrue value) :
    data.truthy? key = whenTrue value := by
  rw [Dict.truthy?_eq h, whenTrue]
  cases htrue : value.truthy <;> simp [Option.filter, htrue]

theorem integerAt_whenTrue {n : Int} (h : data.get? key = whenTrue (.num n)) :
    integerAt data key 0 = some n := by
  rw [integerAt, truthy?_whenTrue h, whenTrue]
  by_cases hn : n = 0 <;> simp [Option.filter, Json.truthy, hn]

theorem objectAt_whenTrue {fields : Dict Json}
    (h : data.get? key = whenTrue (.obj fields)) :
    objectAt data key = some fields := by
  rw [objectAt, truthy?_whenTrue h, whenTrue]
  cases fields <;> simp [Option.filter, Json.truthy, Json.object?]

theorem textsAt_of_truthy {items : List String}
    (h : data.truthy? key = whenTrue (.ofStrings items)) :
    textsAt data key = some items := by
  have hread := Json.texts?_ofStrings items
  rw [textsAt, h, whenTrue]
  cases items with
  | nil => rfl
  | cons item items =>
      simpa [Option.filter, Json.ofStrings, Json.truthy, Json.items,
        Json.texts?] using hread

theorem textsAt_whenTrue {items : List String}
    (h : data.get? key = whenTrue (.ofStrings items)) :
    textsAt data key = some items :=
  textsAt_of_truthy (truthy?_whenTrue h)

theorem textsAt_ofStrings {items : List String}
    (h : data.get? key = some (.ofStrings items)) :
    textsAt data key = some items :=
  textsAt_of_truthy (Dict.truthy?_eq h)

theorem optionalBool_verified (verified : Bool) :
    (decide (optionalBool (whenTrue (.bool verified)) = some true)) =
      verified := by
  cases verified <;> rfl

theorem optionalBool_bool (value : Option Bool) :
    optionalBool (value.map Json.bool) = value := by
  cases value <;> rfl

end Written

namespace CatalogModel

variable (model : CatalogModel)

/-- What a dictionary has to say for a model to be read from it. -/
structure ShownBy (data : Dict Json) : Prop where
  id : data.get? "id" = some (.str model.id)
  name : data.get? "name" = some (.str model.name)
  provider : data.get? "provider" = some (.str model.provider)
  tier : data.get? "tier" = some (.str model.tier)
  inputCost : ∃ q, data.get? "input_cost_per_1m" = some (.num q) ∧
    Binary64.toFloat q = model.inputCostPer1m.value
  outputCost : ∃ q, data.get? "output_cost_per_1m" = some (.num q) ∧
    Binary64.toFloat q = model.outputCostPer1m.value
  executorCompat : data.get? "executor_compat" =
    some (.ofStrings model.executorCompat)
  strengths : data.get? "strengths" = some (.ofStrings model.strengths)
  enabled : data.get? "enabled" = some (.bool model.enabled)
  v2 : ∀ key value, (key, value) ∈ model.v2Fields → data.get? key = value

variable {model} in
theorem ShownBy.fromDict {data : Dict Json} (h : model.ShownBy data) :
    fromDict data = some model := by
  obtain ⟨inputCost, hinput, hinputCost⟩ := h.inputCost
  obtain ⟨outputCost, houtput, houtputCost⟩ := h.outputCost
  have hid : argument data "id" Json.text? = some model.id := by
    rw [argument, h.id]
    rfl
  have hname : argumentOr data "name" Json.text? model.id =
      some model.name := by
    rw [argumentOr, h.name]
    rfl
  have hprovider : argumentOr data "provider" Json.text? "" =
      some model.provider := by
    rw [argumentOr, h.provider]
    rfl
  have htier : argumentOr data "tier" Json.text? "standard" =
      some model.tier := by
    rw [argumentOr, h.tier]
    rfl
  have hcompat : executorCompatOf data = some model.executorCompat := by
    rw [executorCompatOf, h.executorCompat]
    exact textsAt_ofStrings h.executorCompat
  have hwindow : integerAt data "context_window" 0 =
      some model.contextWindow :=
    integerAt_whenTrue (h.v2 "context_window" _ (by simp [v2Fields]))
  have hmodalities : textsAt data "modalities" = some model.modalities :=
    textsAt_whenTrue (h.v2 "modalities" _ (by simp [v2Fields]))
  have hlimit : objectAt data "rate_limit" = some model.rateLimit :=
    objectAt_whenTrue (h.v2 "rate_limit" _ (by simp [v2Fields]))
  have hbase : textAt data "base_url" "" = model.baseUrl :=
    textAt_whenTrue (h.v2 "base_url" _ (by simp [v2Fields]))
  have hauth : textAt data "auth_requirement" "" = model.authRequirement :=
    textAt_whenTrue (h.v2 "auth_requirement" _ (by simp [v2Fields]))
  have hkey : textAt data "api_key_url" "" = model.apiKeyUrl :=
    textAt_whenTrue (h.v2 "api_key_url" _ (by simp [v2Fields]))
  have hsource : textAt data "source_url" "" = model.sourceUrl :=
    textAt_whenTrue (h.v2 "source_url" _ (by simp [v2Fields]))
  have hupstream : textAt data "upstream_model_id" "" =
      model.upstreamModelId :=
    textAt_whenTrue (h.v2 "upstream_model_id" _ (by simp [v2Fields]))
  have hupdated : textAt data "source_updated_at" "" =
      model.sourceUpdatedAt :=
    textAt_whenTrue (h.v2 "source_updated_at" _ (by simp [v2Fields]))
  have hlast : textAt data "last_verified_at" "" = model.lastVerifiedAt :=
    textAt_whenTrue (h.v2 "last_verified_at" _ (by simp [v2Fields]))
  have htools : optionalBool (data.get? "supports_tools") =
      model.supportsTools := by
    rw [h.v2 "supports_tools" (model.supportsTools.map Json.bool)
      (by simp [v2Fields])]
    exact optionalBool_bool model.supportsTools
  have hverified : decide (optionalBool (data.get? "verified") =
      some true) = model.verified := by
    rw [h.v2 "verified" (whenTrue (.bool model.verified))
      (by simp [v2Fields])]
    exact optionalBool_verified model.verified
  have hin : Cost.read inputCost = model.inputCostPer1m := Cost.ext hinputCost
  have hout : Cost.read outputCost = model.outputCostPer1m :=
    Cost.ext houtputCost
  rw [CatalogModel.fromDict, hid, hprovider, htier, numberAt_num hinput,
    numberAt_num houtput, hcompat, textsAt_ofStrings h.strengths,
    flagAt_bool h.enabled, hwindow, hmodalities, hlimit, hbase, hauth, hkey,
    hsource, hupstream, hupdated, hlast, htools, hverified]
  simp only [Option.bind_eq_bind, Option.bind_some, hname, hin, hout]

theorem v2Fields_keys : model.v2Fields.map Prod.fst =
    ["base_url", "context_window", "modalities", "rate_limit",
      "auth_requirement", "api_key_url", "supports_tools", "source_url",
      "upstream_model_id", "source_updated_at", "verified",
      "last_verified_at"] := rfl

theorem v2Fields_nodup : (model.v2Fields.map Prod.fst).Nodup := by
  rw [v2Fields_keys]
  decide

theorem baseFields_get? {key : String}
    (h : key ∈ model.v2Fields.map Prod.fst) :
    Dict.get? model.baseFields key = none := by
  have hbase : model.baseFields.keys = ["id", "name", "provider", "tier",
      "input_cost_per_1m", "output_cost_per_1m", "executor_compat",
      "strengths", "enabled"] := rfl
  apply Dict.get?_eq_none
  rw [v2Fields_keys] at h
  rw [hbase]
  revert key
  decide

theorem get?_toDict {key : String} {value : Option Json}
    (h : (key, value) ∈ model.v2Fields) : model.toDict.get? key = value := by
  have hmem : key ∈ model.v2Fields.map Prod.fst := List.mem_map_of_mem h
  have hbase := model.baseFields_get? hmem
  have hfound := Dict.get?_of_mem model.v2Fields_nodup h
  rw [toDict, Dict.get?_append, hbase, Option.none_or,
    Dict.get?_present model.v2Fields_nodup, hfound, Option.join_some]

theorem fromDict_toDict (hname : model.name ≠ "") :
    fromDict model.toDict = some model := by
  have hnamed : model.toDict.get? "name" = some (.str model.name) := by
    change some (Json.str (orElse model.name model.id)) = _
    rw [orElse, if_neg hname]
  exact ShownBy.fromDict
    { id := rfl
      name := hnamed
      provider := rfl
      tier := rfl
      inputCost := ⟨_, rfl, model.inputCostPer1m.isFloat⟩
      outputCost := ⟨_, rfl, model.outputCostPer1m.isFloat⟩
      executorCompat := rfl
      strengths := rfl
      enabled := rfl
      v2 := fun _ _ hfield => model.get?_toDict hfield }

end CatalogModel

def savedModels (models : List CatalogModel) : Json := .obj [
  ("models", .arr (models.map fun model => .obj model.toDict)),
  ("count", .num models.length)]

/-- An item of the file that is loaded: a dictionary with an id. -/
def modelItem? : Json → Option (Dict Json)
  | .obj fields =>
      if (Dict.truthy? fields "id").isSome then some fields else none
  | _ => none

/-- `load_models` on the content of the file, which raises where a model
cannot be read. -/
def loadModels (data : Json) : Option (List CatalogModel) := do
  let items ← match data with
    | .arr items => some items
    | .obj fields =>
        match Dict.get? fields "models" with
        | some value => value.items
        | none => some []
    | _ => none
  (items.filterMap modelItem?).mapM CatalogModel.fromDict

theorem modelItem?_toDict {model : CatalogModel} (h : model.id ≠ "") :
    modelItem? (.obj model.toDict) = some model.toDict := by
  have hid : (model.toDict.truthy? "id").isSome = true := by
    have hget : model.toDict.get? "id" = some (.str model.id) := rfl
    rw [Dict.truthy?_eq hget]
    simp [Option.filter, Json.truthy, h]
  exact if_pos hid

theorem loadModels_savedModels (models : List CatalogModel)
    (h : ∀ model ∈ models, model.id ≠ "" ∧ model.name ≠ "") :
    loadModels (savedModels models) = some models := by
  change ((models.map fun model => Json.obj model.toDict).filterMap
    modelItem?).mapM CatalogModel.fromDict = some models
  induction models with
  | nil => rfl
  | cons model rest ih =>
      obtain ⟨hid, hname⟩ := h model List.mem_cons_self
      have hrest := ih fun other hmem => h other (List.mem_cons_of_mem _ hmem)
      rw [List.map_cons,
        List.filterMap_cons_some (modelItem?_toDict hid), List.mapM_cons,
        model.fromDict_toDict hname, hrest]
      rfl

end Voly.Catalog
