/-
The catalog worker: models as rows of a table, with the fields beyond the first
version in one JSON column.
-/
import Voly.Records.Keyed
import Voly.Worker.Passage

namespace Worker.Catalog

open Python

/-- A row of `models`; a JSON column stands as the value of its text. -/
structure ModelRow where
  id : String
  name : String
  provider : String
  tier : String
  inputCostPer1m : Json
  outputCostPer1m : Json
  executorCompat : Json
  strengths : Json
  enabled : Nat
  updatedAt : Nat
  metadata : Dict Json

/-- `{ ...base, ...fields }`. -/
def spread (base fields : Dict Json) : Dict Json :=
  fields.foldl (fun d field => d.set field.1 field.2) base

def parseModel (row : ModelRow) : Dict Json :=
  spread [
    ("id", .str row.id),
    ("name", .str row.name),
    ("provider", .str row.provider),
    ("tier", .str row.tier),
    ("input_cost_per_1m", row.inputCostPer1m),
    ("output_cost_per_1m", row.outputCostPer1m),
    ("executor_compat", row.executorCompat),
    ("strengths", row.strengths),
    ("enabled", .bool (row.enabled ≠ 0)),
    ("updated_at", .num row.updatedAt)] row.metadata

/-- `ORDER BY tier, id`. -/
def rowLe (a b : ModelRow) : Bool :=
  decide (a.tier < b.tier) || decide (a.tier = b.tier) && decide (a.id ≤ b.id)

/-- Whether a model is verified, as the filter of the answer asks. -/
def isVerified (model : Dict Json) : Bool :=
  match model.get? "verified" with
  | some (.bool verified) => verified
  | _ => false

def getModels (table : List ModelRow) (tier : String := "")
    (verified : Bool := false) : List (Dict Json) :=
  let rows := (table.filter fun row =>
    row.enabled = 1 && (tier = "" || row.tier = tier)).mergeSort rowLe
  (rows.map parseModel).filter fun model => !verified || isVerified model

/-- `body[key]`, unless it is missing or null. -/
def given (body : Dict Json) (key : String) : Option Json :=
  match body.get? key with
  | some .null => none
  | value => value

/-- `String(body[key] ?? default)`, for a text. -/
def textGiven (body : Dict Json) (key default : String) : String :=
  match given body key with
  | some (.str text) => text
  | _ => default

/-- `Number(body[key] ?? 0)`, for a number. -/
def numberGiven (body : Dict Json) (key : String) : Json :=
  (given body key).getD (.num 0)

def v2Keys : List String :=
  ["base_url", "context_window", "modalities", "rate_limit",
    "auth_requirement", "api_key_url", "supports_tools", "source_url",
    "upstream_model_id", "source_updated_at", "verified", "last_verified_at"]

/-- A field of the metadata: neither missing nor null nor an empty text. -/
def v2Field (body : Dict Json) (key : String) : Option Json :=
  match given body key with
  | some (.str text) => if text = "" then none else some (.str text)
  | value => value

def buildMetadata (body : Dict Json) : Dict Json :=
  Dict.present (v2Keys.map fun key => (key, v2Field body key))

/-- The row of an upload; without an id there is none. -/
def syncRow (now : Nat) (body : Dict Json) : Option ModelRow :=
  let id := textGiven body "id" ""
  if id = "" then none
  else some
    { id
      name := textGiven body "name" id
      provider := textGiven body "provider" ""
      tier := textGiven body "tier" "standard"
      inputCostPer1m := numberGiven body "input_cost_per_1m"
      outputCostPer1m := numberGiven body "output_cost_per_1m"
      executorCompat :=
        (given body "executor_compat").getD (.ofStrings ["zen"])
      strengths := (given body "strengths").getD (.arr [])
      enabled := 1
      updatedAt := now
      metadata := buildMetadata body }

/-- `POST /models/sync`: a row takes the place of the one with its id. -/
def postSync (now : Nat) (bodies : List (Dict Json))
    (table : List ModelRow) : List ModelRow :=
  Keyed.putAll ModelRow.id
    (bodies.filterMap fun body => syncRow now (passFields body)) table

theorem get?_spread {base fields : Dict Json}
    (h : fields.keys.Nodup) (key : String) :
    (spread base fields).get? key = (fields.get? key).or (base.get? key) := by
  induction fields generalizing base with
  | nil => rfl
  | cons field rest ih =>
      obtain ⟨k, value⟩ := field
      rw [Dict.keys, List.map_cons, List.nodup_cons] at h
      have hrest := @ih (base.set k value) h.2
      rw [Dict.get?_set] at hrest
      by_cases hk : k = key
      · -- the key is not used again
        have hmissing : Dict.get? rest key = none :=
          Dict.get?_eq_none (hk ▸ h.1)
        rw [hmissing, if_pos hk] at hrest
        simpa [spread, Dict.get?, hk] using hrest
      · rw [if_neg hk] at hrest
        simpa [spread, Dict.get?, hk] using hrest

theorem v2Entries_nodup (body : Dict Json) :
    ((v2Keys.map fun key => (key, v2Field body key)).map
      Prod.fst).Nodup := by
  have hkeys : ((v2Keys.map fun key => (key, v2Field body key)).map
      Prod.fst) = v2Keys := by
    rw [List.map_map]
    exact List.map_id _
  rw [hkeys]
  decide

theorem get?_metadata (body : Dict Json) (key : String) :
    (buildMetadata body).get? key =
      if key ∈ v2Keys then v2Field body key else none := by
  have hfound : ∀ keys : List String,
      (Dict.get? (keys.map fun key => (key, v2Field body key)) key).join =
        if key ∈ keys then v2Field body key else none := by
    intro keys
    induction keys with
    | nil => rfl
    | cons k rest ih =>
        by_cases hk : k = key
        · simp [Dict.get?, hk]
        · simp [Dict.get?, hk, Ne.symm hk, ih]
  rw [buildMetadata, Dict.get?_present (v2Entries_nodup body), hfound]

theorem get?_parseModel (row : ModelRow) {body : Dict Json}
    (h : row.metadata = buildMetadata body) (key : String) :
    (parseModel row).get? key =
      (if key ∈ v2Keys then v2Field body key else none).or
        ((parseModel { row with metadata := [] }).get? key) := by
  have hkeys : row.metadata.keys.Nodup := by
    rw [h]
    exact Dict.nodup_present (v2Entries_nodup body)
  rw [parseModel, get?_spread hkeys, h, get?_metadata]
  rfl

end Worker.Catalog
