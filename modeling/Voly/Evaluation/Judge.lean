/-
The parser for the answer of the LLM judge: which answers make it raise.
-/
import Mathlib.Algebra.Order.Field.Rat
import Voly.Python.Text

namespace Voly.Judge

/-- A Python text: code points, among which a lone half of a surrogate pair may
be. -/
abbrev PyStr := List UInt32

def pyStr (s : String) : PyStr := s.toList.map Char.val

/-- What `json.loads` builds; no key of an object is there twice. -/
inductive JsonValue (F : Type) where
  | null
  | bool (b : Bool)
  | int (n : Int)
  | float (x : F)
  | str (s : PyStr)
  | list (items : List (JsonValue F))
  | dict (items : List (PyStr × JsonValue F))

/-- `json.loads` returns a value, raises `TypeError` or `JSONDecodeError`, or
raises anything else. -/
inductive Loaded (F : Type) where
  | value (v : JsonValue F)
  | invalid
  | raises (error : String)

/-- Float operations, left open as versions of Python differ in `sum`. -/
structure Floats (F : Type) where
  ofNat : Nat → F
  ofInt : Int → Option F
  le : F → F → Bool
  div : F → F → F
  mul : F → F → F
  sum : List F → F
  round : F → Nat → F
  fixed : Nat → F → String

structure RubricDimension (F : Type) where
  id : PyStr
  weight : F
  critical : Bool := false

structure JudgeRubric (F : Type) where
  id : PyStr
  dimensions : List (RubricDimension F)

/-- A dimension of the answer. -/
structure Observed (F : Type) where
  id : PyStr
  score : F
  reason : PyStr

inductive JudgeDetail (F : Type) where
  | failure (kind : String)
  | scored (rubricId verdict : PyStr) (score threshold : F)
      (criticalDimensionsPassed : Bool) (dimensions : List (Observed F))
      (summary : PyStr)

structure JudgeReply (F : Type) where
  status : String
  message : String
  detail : JudgeDetail F

section Parser

variable {F : Type} (py : Floats F)

/-- `data.get(key)`. -/
def field (items : List (PyStr × JsonValue F)) (key : String) : JsonValue F :=
  ((items.find? fun item => item.1 = pyStr key).map Prod.snd).getD .null

/-- `set(data) == {...}`. -/
def hasKeys (items : List (PyStr × JsonValue F)) (keys : List String) : Bool :=
  (items.all fun item => (keys.map pyStr).contains item.1) &&
    (keys.map pyStr).all fun key => (items.map Prod.fst).contains key

/-- A value that `in` can look for in a set. -/
def hashable : JsonValue F → Bool
  | .list _ | .dict _ => false
  | _ => true

def violated (kind : String) : JudgeReply F where
  status := "skipped"
  message := "LLM judge response violated schema"
  detail := .failure kind

/-- The `TypeError` of a value that has no hash. -/
def unhashableType (name : String) : String :=
  "unhashable type: '" ++ name ++ "'"

/-- `0 <= x <= 4`. -/
def inRange (x : F) : Bool := py.le (py.ofNat 0) x && py.le x (py.ofNat 4)

def readScore : JsonValue F → Except String (Option F)
  | .int n =>
      match py.ofInt n with
      | some x => .ok (if inRange py x then some x else none)
      | none => .error "int too large to convert to float"
  | .float x => .ok (if inRange py x then some x else none)
  | _ => .ok none

def readText (limit : Nat) : JsonValue F → Option PyStr
  | .str s => if s.length ≤ limit then some s else none
  | _ => none

/-- One item of `dimensions`, none for what is refused. -/
def readDimension (rubric : JudgeRubric F) (observed : List (Observed F)) :
    JsonValue F → Except String (Option (Observed F))
  | .dict item =>
      if hasKeys item ["id", "score", "reason"] then
        match field item "id" with
        | .str id =>
            if id ∈ rubric.dimensions.map RubricDimension.id ∧
                id ∉ observed.map Observed.id then do
              let score ← readScore py (field item "score")
              pure (score.bind fun score =>
                (readText 500 (field item "reason")).map fun reason =>
                  ⟨id, score, reason⟩)
            else .ok none
        | .list _ => .error (unhashableType "list")
        | .dict _ => .error (unhashableType "dict")
        | _ => .ok none
      else .ok none
  | _ => .ok none

/-- The loop over `dimensions`, which ends at the first item that is
refused. -/
def readDimensions (rubric : JudgeRubric F) :
    List (Observed F) → List (JsonValue F) →
      Except String (Option (List (Observed F)))
  | observed, [] => .ok (some observed)
  | observed, item :: rest => do
      match ← readDimension py rubric observed item with
      | some dimension => readDimensions rubric (observed ++ [dimension]) rest
      | none => pure none

/-- `observed[id]["score"]`; every id of the rubric is observed by then. -/
def scoreOf (observed : List (Observed F)) (id : PyStr) : F :=
  ((observed.find? fun dimension => dimension.id = id).map
    Observed.score).getD (py.ofNat 0)

def weigh (rubric : JudgeRubric F) (score : PyStr → F) : F :=
  py.sum (rubric.dimensions.map fun dimension =>
    py.mul (py.div (score dimension.id) (py.ofNat 4)) dimension.weight)

def criticalOk (rubric : JudgeRubric F) (score : PyStr → F) : Bool :=
  rubric.dimensions.all fun dimension =>
    !dimension.critical || py.le (py.ofNat 2) (score dimension.id)

def scoreReply (rubric : JudgeRubric F) (threshold : F)
    (verdict summary : PyStr) (observed : List (Observed F)) : JudgeReply F :=
  let weighted := weigh py rubric (scoreOf py observed)
  let critical := criticalOk py rubric (scoreOf py observed)
  let detail : JudgeDetail F := .scored rubric.id verdict
    (py.round weighted 4) threshold critical
    (rubric.dimensions.filterMap fun dimension =>
      observed.find? fun other => other.id = dimension.id) summary
  if verdict = pyStr "uncertain" then
    ⟨"skipped", "LLM judge was uncertain", detail⟩
  else
    ⟨if verdict = pyStr "pass" ∧ py.le threshold weighted ∧ critical then
        "passed" else "failed",
      "LLM judge score " ++ py.fixed 3 weighted ++ " against threshold " ++
        py.fixed 3 threshold, detail⟩

def sameIds (rubric : JudgeRubric F) (observed : List (Observed F)) : Bool :=
  (observed.all fun dimension =>
    (rubric.dimensions.map RubricDimension.id).contains dimension.id) &&
  rubric.dimensions.all fun dimension =>
    (observed.map Observed.id).contains dimension.id

/-- The dimensions of an answer whose other fields are as they should be. -/
def readScores (rubric : JudgeRubric F) (threshold : F)
    (verdict summary : PyStr) (items : List (JsonValue F)) :
    Except String (JudgeReply F) := do
  match ← readDimensions py rubric [] items with
  | none => pure (violated "invalid_dimension")
  | some observed =>
      if sameIds rubric observed then
        pure (scoreReply py rubric threshold verdict summary observed)
      else pure (violated "missing_dimension")

def verdicts : List PyStr := ["pass", "fail", "uncertain"].map pyStr

/-- The fields of the answer in the order of the checks. -/
def readPayload (rubric : JudgeRubric F) (threshold : F)
    (payload : List (PyStr × JsonValue F)) : Except String (JudgeReply F) :=
  match field payload "verdict" with
  | .str verdict =>
      if verdict ∈ verdicts then
        match readText 1000 (field payload "summary") with
        | none => .ok (violated "invalid_summary")
        | some summary =>
            match field payload "dimensions" with
            | .list items =>
                if items.length = rubric.dimensions.length then
                  readScores py rubric threshold verdict summary items
                else .ok (violated "invalid_dimensions")
            | _ => .ok (violated "invalid_dimensions")
      else .ok (violated "invalid_verdict")
  | .list _ => .error (unhashableType "list")
  | .dict _ => .error (unhashableType "dict")
  | _ => .ok (violated "invalid_verdict")

/-- `_parse_response` on what `json.loads` makes of the content. -/
def parseLoaded (rubric : JudgeRubric F) (threshold : F) :
    Loaded F → Except String (JudgeReply F)
  | .raises error => .error error
  | .invalid => .ok
      ⟨"skipped", "LLM judge returned invalid JSON", .failure "invalid_json"⟩
  | .value (.dict payload) =>
      if hasKeys payload ["verdict", "dimensions", "summary"] then
        readPayload py rubric threshold payload
      else .ok (violated "invalid_schema")
  | .value _ => .ok (violated "invalid_schema")

/-- `_parse_response`, under `json.loads`. -/
def parseResponse {C : Type} (loads : C → Loaded F) (content : C)
    (rubric : JudgeRubric F) (threshold : F) : Except String (JudgeReply F) :=
  parseLoaded py rubric threshold (loads content)

end Parser

section Answer

variable {F : Type} (py : Floats F) (rubric : JudgeRubric F)

def itemId : JsonValue F → Option PyStr
  | .dict item =>
      match field item "id" with
      | .str id => some id
      | _ => none
  | _ => none

/-- `float(score)` of a number. -/
def asFloat : JsonValue F → Option F
  | .int n => py.ofInt n
  | .float x => some x
  | _ => none

def itemScore : JsonValue F → Option F
  | .dict item => asFloat py (field item "score")
  | _ => none

/-- Scored by exactly one item, within the range, and at its minimum if
critical. -/
def Scored (items : List (JsonValue F)) (dimension : RubricDimension F) :
    Prop :=
  ∃ item score,
    items.filter (fun item => itemId item = some dimension.id) = [item] ∧
      itemScore py item = some score ∧ inRange py score = true ∧
      (dimension.critical = true → py.le (py.ofNat 2) score = true)

def scoreFor (items : List (JsonValue F)) (id : PyStr) : F :=
  ((items.find? fun item => itemId item = some id).bind
    (itemScore py)).getD (py.ofNat 0)

/-- Verdict pass, every dimension scored, the weighted score at the threshold.
-/
def Passing (threshold : F) (loaded : Loaded F) : Prop :=
  ∃ payload items, loaded = .value (.dict payload) ∧
    field payload "verdict" = .str (pyStr "pass") ∧
    field payload "dimensions" = .list items ∧
    (∀ dimension ∈ rubric.dimensions, Scored py items dimension) ∧
    py.le threshold (weigh py rubric (scoreFor py items)) = true

/-- No item of `front` has the id. -/
def Unused (front : List (JsonValue F)) (id : PyStr) : Prop :=
  ∀ other ∈ front, itemId other ≠ some id

/-- The item is taken after those of `front`. -/
def Fits (front : List (JsonValue F)) (item : JsonValue F) : Prop :=
  ∃ fields id score, item = .dict fields ∧
    hasKeys fields ["id", "score", "reason"] = true ∧
    itemId item = some id ∧ id ∈ rubric.dimensions.map RubricDimension.id ∧
    Unused front id ∧ itemScore py item = some score ∧
    inRange py score = true ∧
    (readText 500 (field fields "reason")).isSome = true

/-- The id has a hash, and a new integer score is not too large for a float. -/
def Safe (front : List (JsonValue F)) (item : JsonValue F) : Prop :=
  ∀ fields, item = .dict fields →
    hasKeys fields ["id", "score", "reason"] = true →
    hashable (field fields "id") = true ∧
      ∀ id ∈ rubric.dimensions.map RubricDimension.id,
        itemId item = some id → Unused front id →
        ∀ n, field fields "score" = .int n → (py.ofInt n).isSome = true

def SafeItems : List (JsonValue F) → List (JsonValue F) → Prop
  | _, [] => True
  | front, item :: rest =>
      Safe py rubric front item ∧
        (Fits py rubric front item → SafeItems (front ++ [item]) rest)

/-- An object of the schema has a verdict with a hash, and safe dimensions
where they are looked at. -/
def ReadableObject (payload : List (PyStr × JsonValue F)) : Prop :=
  hashable (field payload "verdict") = true ∧
    ∀ verdict ∈ verdicts, field payload "verdict" = .str verdict →
      (readText 1000 (field payload "summary")).isSome = true →
      ∀ items, field payload "dimensions" = .list items →
        items.length = rubric.dimensions.length →
        SafeItems py rubric [] items

/-- The text was read, or refused with an error that is expected. -/
def Readable : Loaded F → Prop
  | .raises _ => False
  | .invalid => True
  | .value (.dict payload) =>
      hasKeys payload ["verdict", "dimensions", "summary"] = true →
        ReadableObject py rubric payload
  | .value _ => True

end Answer

section Laws

variable {F : Type} {py : Floats F} {rubric : JudgeRubric F}

/-- What is observed stands for the items that were taken, one by one. -/
abbrev Records (py : Floats F) :
    List (JsonValue F) → List (Observed F) → Prop :=
  List.Forall₂ fun item dimension =>
    itemId item = some dimension.id ∧
      itemScore py item = some dimension.score ∧
      inRange py dimension.score = true

theorem unused_iff {front : List (JsonValue F)} {observed : List (Observed F)}
    (h : Records py front observed) (id : PyStr) :
    Unused front id ↔ id ∉ observed.map Observed.id := by
  unfold Unused
  induction h with
  | nil => simp
  | cons hitem hrest ih =>
      rw [List.forall_mem_cons, ih, hitem.1, List.map_cons, List.mem_cons,
        not_or, ne_eq, Option.some.injEq, eq_comm]

theorem readScore_cases (value : JsonValue F) :
    (∃ n e, value = .int n ∧ py.ofInt n = none ∧
      readScore py value = .error e) ∨
    (∀ n, value = .int n → (py.ofInt n).isSome = true) ∧
      readScore py value = .ok ((asFloat py value).filter (inRange py)) := by
  cases value with
  | int n =>
      cases hn : py.ofInt n with
      | none => exact Or.inl ⟨n, _, rfl, hn, by rw [readScore, hn]⟩
      | some x =>
          refine Or.inr ⟨?_, ?_⟩
          · intro m hm
            cases hm
            rw [hn]
            rfl
          · rw [readScore, asFloat, hn, Option.filter_some]
  | float x =>
      refine Or.inr ⟨nofun, ?_⟩
      rw [readScore, asFloat, Option.filter_some]
  | _ => exact Or.inr ⟨nofun, rfl⟩

/-- How an item is read after those of `front`. -/
inductive Reading (py : Floats F) (rubric : JudgeRubric F)
    (front : List (JsonValue F)) (observed : List (Observed F))
    (item : JsonValue F) : Except String (Option (Observed F)) → Prop where
  | raised (e : String) (hsafe : ¬ Safe py rubric front item) :
      Reading py rubric front observed item (.error e)
  | refused (hsafe : Safe py rubric front item)
      (hfits : ¬ Fits py rubric front item) :
      Reading py rubric front observed item (.ok none)
  | taken (dimension : Observed F) (hsafe : Safe py rubric front item)
      (hfits : Fits py rubric front item)
      (hrecords : Records py [item] [dimension])
      (hknown : dimension.id ∈ rubric.dimensions.map RubricDimension.id)
      (hnew : dimension.id ∉ observed.map Observed.id) :
      Reading py rubric front observed item (.ok (some dimension))

section

variable {front : List (JsonValue F)} {observed : List (Observed F)}
  {fields : List (PyStr × JsonValue F)}

theorem refused_of_id (hhash : hashable (field fields "id") = true)
    (hid : ∀ id ∈ rubric.dimensions.map RubricDimension.id,
      itemId (.dict fields) = some id → ¬ Unused front id) :
    Reading py rubric front observed (.dict fields) (.ok none) := by
  apply Reading.refused
  · intro fields' heq _
    cases heq
    exact ⟨hhash, fun id hmem hitem hunused =>
      absurd hunused (hid id hmem hitem)⟩
  · rintro ⟨_, id, _, _, _, hitem, hmem, hunused, _⟩
    exact hid id hmem hitem hunused

theorem readFields_reading (h : Records py front observed) {id : PyStr}
    (hkeys : hasKeys fields ["id", "score", "reason"] = true)
    (hfield : field fields "id" = .str id)
    (hknown : id ∈ rubric.dimensions.map RubricDimension.id)
    (hnew : id ∉ observed.map Observed.id) :
    Reading py rubric front observed (.dict fields)
      ((readScore py (field fields "score")).map fun score =>
        score.bind fun score =>
          (readText 500 (field fields "reason")).map fun reason =>
            ⟨id, score, reason⟩) := by
  have hitem : itemId (.dict fields) = some id := by rw [itemId, hfield]
  have hunused : Unused front id := (unused_iff h id).mpr hnew
  rcases @readScore_cases F py (field fields "score") with
      ⟨n, e, hn, hlarge, herror⟩ | ⟨hsmall, hread⟩
  · rw [herror]
    apply Reading.raised
    intro hsafe
    have hsome := (hsafe fields rfl hkeys).2 id hknown hitem hunused n hn
    rw [hlarge] at hsome
    cases hsome
  · have hsafe : Safe py rubric front (.dict fields) := by
      intro fields' heq _
      cases heq
      rw [hfield]
      exact ⟨rfl, fun _ _ _ _ => hsmall⟩
    rw [hread]
    cases hscore : (asFloat py (field fields "score")).filter (inRange py) with
    | none =>
        apply Reading.refused hsafe
        rintro ⟨_, _, score, heq, _, _, _, _, hvalue, hrange, _⟩
        cases heq
        rw [show asFloat py (field fields "score") = some score from hvalue,
          Option.filter_some, if_pos hrange] at hscore
        cases hscore
    | some score =>
        obtain ⟨hvalue, hrange⟩ := Option.filter_eq_some_iff.mp hscore
        cases hreason : readText 500 (field fields "reason") with
        | none =>
            apply Reading.refused hsafe
            rintro ⟨_, _, _, heq, _, _, _, _, _, _, htext⟩
            cases heq
            rw [hreason] at htext
            cases htext
        | some reason =>
            refine Reading.taken ⟨id, score, reason⟩ hsafe ?_ ?_ hknown hnew
            · exact ⟨fields, id, score, rfl, hkeys, hitem, hknown, hunused,
                hvalue, hrange, by rw [hreason]; rfl⟩
            · exact .cons ⟨hitem, hvalue, hrange⟩ .nil

end

theorem readDimension_reading {front : List (JsonValue F)}
    {observed : List (Observed F)} (h : Records py front observed)
    (item : JsonValue F) :
    Reading py rubric front observed item
      (readDimension py rubric observed item) := by
  have hother (hitem : ∀ fields, item ≠ .dict fields) :
      Reading py rubric front observed item (.ok none) := by
    apply Reading.refused
    · exact fun fields heq => absurd heq (hitem fields)
    · rintro ⟨fields, _, _, heq, _⟩
      exact hitem fields heq
  cases item with
  | dict fields =>
      rw [readDimension]
      split
      · next hkeys =>
          cases hfield : field fields "id" with
          | str id =>
              dsimp only
              split
              · next hid =>
                  have hreading := readFields_reading h hkeys hfield hid.1 hid.2
                  revert hreading
                  cases readScore py (field fields "score") with
                  | error e => exact fun hreading => hreading
                  | ok score => exact fun hreading => hreading
              · next hid =>
                  apply refused_of_id (by rw [hfield]; rfl)
                  intro other hmem hitem hunused
                  rw [itemId, hfield] at hitem
                  cases hitem
                  exact hid ⟨hmem, (unused_iff h id).mp hunused⟩
          | list items =>
              apply Reading.raised
              intro hsafe
              have hhash := (hsafe fields rfl hkeys).1
              rw [hfield] at hhash
              cases hhash
          | dict items =>
              apply Reading.raised
              intro hsafe
              have hhash := (hsafe fields rfl hkeys).1
              rw [hfield] at hhash
              cases hhash
          | _ =>
              exact refused_of_id (by simp [hfield, hashable])
                (by simp [itemId, hfield])
      · next hkeys =>
          apply Reading.refused
          · intro fields' heq hkeys'
            cases heq
            exact absurd hkeys' hkeys
          · rintro ⟨_, _, _, heq, hkeys', _⟩
            cases heq
            exact hkeys hkeys'
  | _ => exact hother nofun

theorem readDimensions_returns_iff {front items : List (JsonValue F)}
    {observed : List (Observed F)} (h : Records py front observed) :
    (∃ out, readDimensions py rubric observed items = .ok out) ↔
      SafeItems py rubric front items := by
  induction items generalizing front observed with
  | nil => exact iff_of_true ⟨_, rfl⟩ trivial
  | cons item rest ih =>
      have hreading := @readDimension_reading F py rubric _ _ h item
      rw [readDimensions, SafeItems]
      revert hreading
      generalize readDimension py rubric observed item = out
      intro hreading
      cases hreading with
      | raised e hsafe =>
          exact iff_of_false (fun ⟨_, hout⟩ => nomatch hout)
            fun hitems => hsafe hitems.1
      | refused hsafe hfits =>
          exact iff_of_true ⟨_, rfl⟩ ⟨hsafe, fun h => absurd h hfits⟩
      | taken dimension hsafe hfits hrecords hknown hnew =>
          refine (ih (List.rel_append h hrecords)).trans ?_
          simp [hsafe, hfits]

/-- What is observed stands for all items, by ids of the rubric, none twice. -/
theorem readDimensions_records {front items : List (JsonValue F)}
    {observed all : List (Observed F)} (h : Records py front observed)
    (hnodup : (observed.map Observed.id).Nodup)
    (hread : readDimensions py rubric observed items = .ok (some all)) :
    Records py (front ++ items) all ∧ (all.map Observed.id).Nodup := by
  induction items generalizing front observed with
  | nil =>
      cases hread
      rw [List.append_nil]
      exact ⟨h, hnodup⟩
  | cons item rest ih =>
      have hreading := @readDimension_reading F py rubric _ _ h item
      rw [readDimensions] at hread
      revert hreading hread
      generalize readDimension py rubric observed item = out
      intro hread hreading
      cases hreading with
      | raised e hsafe => cases hread
      | refused hsafe hfits => cases hread
      | taken dimension hsafe hfits hrecords hknown hnew =>
          have hextended :
              ((observed ++ [dimension]).map Observed.id).Nodup := by
            rw [List.map_append, List.map_singleton]
            exact List.nodup_append.mpr ⟨hnodup, List.nodup_singleton _,
              fun id hid other hother hsame => hnew
                (List.mem_singleton.mp hother ▸ hsame ▸ hid)⟩
          have hall := ih (List.rel_append h hrecords) hextended hread
          rw [List.append_assoc] at hall
          exact hall

section

variable {items : List (JsonValue F)} {observed : List (Observed F)}
  (h : Records py items observed) (hnodup : (observed.map Observed.id).Nodup)
include h hnodup

theorem Records.find {id : PyStr} (hid : id ∈ observed.map Observed.id) :
    ∃ item dimension, dimension ∈ observed ∧
      items.filter (fun item => itemId item = some id) = [item] ∧
      items.find? (fun item => itemId item = some id) = some item ∧
      observed.find? (fun other => other.id = id) = some dimension ∧
      itemScore py item = some dimension.score ∧
      inRange py dimension.score = true := by
  induction h with
  | nil => cases hid
  | @cons item dimension items observed hitem hrest ih =>
      obtain ⟨hfirst, hscore, hrange⟩ := hitem
      rw [List.map_cons, List.nodup_cons] at hnodup
      by_cases hsame : dimension.id = id
      · subst hsame
        have hrest' : items.filter
            (fun item => itemId item = some dimension.id) = [] := by
          rw [List.filter_eq_nil_iff]
          intro other hother
          have hunused := (unused_iff hrest dimension.id).mpr hnodup.1
          simpa using hunused other hother
        refine ⟨item, dimension, List.mem_cons_self, ?_, ?_, ?_, hscore, hrange⟩
        · rw [List.filter_cons_of_pos (by simp [hfirst]), hrest']
        · rw [List.find?_cons_of_pos (by simp [hfirst])]
        · rw [List.find?_cons_of_pos (by simp)]
      · have hmem : id ∈ observed.map Observed.id := by
          rw [List.map_cons, List.mem_cons] at hid
          exact hid.resolve_left (Ne.symm hsame)
        obtain ⟨other, found, hfound, hfilter, hfind, hobserved, hrest⟩ :=
          ih hnodup.2 hmem
        refine ⟨other, found, List.mem_cons_of_mem _ hfound, ?_, ?_, ?_, hrest⟩
        · rw [List.filter_cons_of_neg (by simp [hfirst, hsame]), hfilter]
        · rw [List.find?_cons_of_neg (by simp [hfirst, hsame]), hfind]
        · rw [List.find?_cons_of_neg (by simp [hsame]), hobserved]

theorem Records.scores (hids : sameIds rubric observed = true)
    (dimension : RubricDimension F) (hmem : dimension ∈ rubric.dimensions) :
    scoreOf py observed dimension.id = scoreFor py items dimension.id ∧
      ∃ item, items.filter (fun item => itemId item = some dimension.id) =
          [item] ∧
        itemScore py item = some (scoreOf py observed dimension.id) ∧
        inRange py (scoreOf py observed dimension.id) = true := by
  have hid : dimension.id ∈ observed.map Observed.id := by
    simp only [sameIds, Bool.and_eq_true, List.all_eq_true,
      List.contains_iff_mem] at hids
    exact hids.2 dimension hmem
  obtain ⟨item, found, -, hfilter, hfind, hobserved, hscore, hrange⟩ :=
    h.find hnodup hid
  have hof : scoreOf py observed dimension.id = found.score := by
    rw [scoreOf, hobserved]
    rfl
  have hfor : scoreFor py items dimension.id = found.score := by
    rw [scoreFor, hfind]
    exact congrArg (Option.getD · _) hscore
  rw [hof, hfor]
  exact ⟨rfl, item, hfilter, hscore, hrange⟩

end

section

variable {threshold : F} {verdict summary : PyStr} {reply : JudgeReply F}

theorem scoreReply_passed {observed : List (Observed F)}
    (h : (scoreReply py rubric threshold verdict summary observed).status =
      "passed") :
    verdict = pyStr "pass" ∧
      py.le threshold (weigh py rubric (scoreOf py observed)) = true ∧
      criticalOk py rubric (scoreOf py observed) = true := by
  unfold scoreReply at h
  dsimp only at h
  split at h
  · simp at h
  · split at h
    · next hpassed => exact hpassed
    · simp at h

theorem violated_not_passed (kind : String) :
    (violated kind : JudgeReply F).status ≠ "passed" := by
  simp [violated]

theorem weigh_congr {score other : PyStr → F}
    (h : ∀ dimension ∈ rubric.dimensions,
      score dimension.id = other dimension.id) :
    weigh py rubric score = weigh py rubric other := by
  unfold weigh
  congr 1
  apply List.map_congr_left
  intro dimension hmem
  rw [h dimension hmem]

theorem readScores_passed {items : List (JsonValue F)}
    (hread : readScores py rubric threshold verdict summary items = .ok reply)
    (hpassed : reply.status = "passed") :
    verdict = pyStr "pass" ∧
      (∀ dimension ∈ rubric.dimensions, Scored py items dimension) ∧
      py.le threshold (weigh py rubric (scoreFor py items)) = true := by
  unfold readScores at hread
  cases hall : readDimensions py rubric [] items with
  | error e =>
      rw [hall] at hread
      cases hread
  | ok out =>
      rw [hall] at hread
      change (match out with
        | none => _
        | some observed => _) = _ at hread
      cases out with
      | none =>
          cases hread
          exact absurd hpassed (violated_not_passed _)
      | some observed =>
          obtain ⟨hrecords, hnodup⟩ :=
            readDimensions_records .nil List.nodup_nil hall
          rw [List.nil_append] at hrecords
          dsimp only at hread
          split at hread
          · next hids =>
              cases hread
              obtain ⟨hverdict, hweight, hcritical⟩ := scoreReply_passed hpassed
              have hscores := hrecords.scores hnodup hids
              refine ⟨hverdict, ?_, ?_⟩
              · intro dimension hmem
                obtain ⟨-, item, hfilter, hscore, hrange⟩ :=
                  hscores dimension hmem
                refine ⟨item, _, hfilter, hscore, hrange, ?_⟩
                intro hmust
                have hminimum := List.all_eq_true.mp hcritical dimension hmem
                rw [hmust] at hminimum
                exact hminimum
              · rw [← weigh_congr fun dimension hmem =>
                  (hscores dimension hmem).1]
                exact hweight
          · cases hread
            exact absurd hpassed (violated_not_passed _)

theorem parseLoaded_passed {loaded : Loaded F}
    (hparse : parseLoaded py rubric threshold loaded = .ok reply)
    (hpassed : reply.status = "passed") :
    Passing py rubric threshold loaded := by
  have hrefused {kind : String}
      (h : (.ok (violated kind) : Except String (JudgeReply F)) = .ok reply) :
      Passing py rubric threshold loaded := by
    cases h
    exact absurd hpassed (violated_not_passed kind)
  unfold parseLoaded at hparse
  split at hparse
  · cases hparse
  · cases hparse
    exact absurd hpassed (by simp)
  · next payload =>
      split at hparse
      · unfold readPayload at hparse
        split at hparse
        · next verdict hverdict =>
            split at hparse
            · split at hparse
              · exact hrefused hparse
              · next summary hsummary =>
                  split at hparse
                  · next items hitems =>
                      split at hparse
                      · obtain ⟨hpass, hscored, hweight⟩ :=
                          readScores_passed hparse hpassed
                        exact ⟨payload, items, rfl, by rw [hverdict, hpass],
                          hitems, hscored, hweight⟩
                      · exact hrefused hparse
                  · exact hrefused hparse
            · exact hrefused hparse
        · cases hparse
        · cases hparse
        · exact hrefused hparse
      · exact hrefused hparse
  · exact hrefused hparse

end

theorem readScores_returns_iff (threshold : F) (verdict summary : PyStr)
    (items : List (JsonValue F)) :
    (∃ reply, readScores py rubric threshold verdict summary items =
        .ok reply) ↔ SafeItems py rubric [] items := by
  rw [← @readDimensions_returns_iff F py rubric [] items [] .nil]
  unfold readScores
  cases readDimensions py rubric [] items with
  | error e =>
      exact iff_of_false (fun ⟨_, h⟩ => nomatch h) fun ⟨_, h⟩ => nomatch h
  | ok out =>
      refine iff_of_true ?_ ⟨out, rfl⟩
      cases out with
      | none => exact ⟨_, rfl⟩
      | some observed =>
          cases hids : sameIds rubric observed with
          | true => exact ⟨_, by simp [bind, Except.bind, hids]; rfl⟩
          | false => exact ⟨_, by simp [bind, Except.bind, hids]; rfl⟩

theorem readPayload_returns_iff (threshold : F)
    (payload : List (PyStr × JsonValue F)) :
    (∃ reply, readPayload py rubric threshold payload = .ok reply) ↔
      ReadableObject py rubric payload := by
  unfold readPayload ReadableObject
  cases hverdict : field payload "verdict" with
  | str verdict =>
      dsimp only
      by_cases hmem : verdict ∈ verdicts
      · rw [if_pos hmem]
        cases hsummary : readText 1000 (field payload "summary") with
        | none =>
            refine iff_of_true ⟨_, rfl⟩ ⟨rfl, ?_⟩
            intro _ _ _ hsome
            cases hsome
        | some summary =>
            dsimp only
            cases hitems : field payload "dimensions" with
            | list items =>
                dsimp only
                by_cases hlength : items.length = rubric.dimensions.length
                · rw [if_pos hlength, readScores_returns_iff]
                  constructor
                  · intro hsafe
                    refine ⟨rfl, ?_⟩
                    intro _ _ _ _ other hother _
                    cases hother
                    exact hsafe
                  · intro h
                    exact h.2 verdict hmem rfl rfl items rfl hlength
                · rw [if_neg hlength]
                  refine iff_of_true ⟨_, rfl⟩ ⟨rfl, ?_⟩
                  intro _ _ _ _ other hother hsame
                  cases hother
                  exact absurd hsame hlength
            | _ => exact iff_of_true ⟨_, rfl⟩ ⟨rfl, nofun⟩
      · rw [if_neg hmem]
        refine iff_of_true ⟨_, rfl⟩ ⟨rfl, ?_⟩
        intro other hother hsame
        cases hsame
        exact absurd hother hmem
  | list items =>
      exact iff_of_false (fun ⟨_, h⟩ => nomatch h) fun h => nomatch h.1
  | dict items =>
      exact iff_of_false (fun ⟨_, h⟩ => nomatch h) fun h => nomatch h.1
  | _ => exact iff_of_true ⟨_, rfl⟩ ⟨rfl, nofun⟩

theorem parseLoaded_returns_iff (threshold : F) (loaded : Loaded F) :
    (∃ reply, parseLoaded py rubric threshold loaded = .ok reply) ↔
      Readable py rubric loaded := by
  cases loaded with
  | raises e => exact iff_of_false (fun ⟨_, h⟩ => nomatch h) id
  | invalid => exact iff_of_true ⟨_, rfl⟩ trivial
  | value v =>
      cases v with
      | dict payload =>
          rw [parseLoaded, Readable]
          split
          · next hkeys =>
              rw [readPayload_returns_iff]
              exact ⟨fun h _ => h, fun h => h hkeys⟩
          · next hkeys =>
              exact iff_of_true ⟨_, rfl⟩ fun h => absurd h hkeys
      | _ => exact iff_of_true ⟨_, rfl⟩ trivial

/-- The parser returns, and passes passing answers only, iff the answer can be
read. -/
theorem judge_parser_iff {C : Type} (loads : C → Loaded F) (content : C)
    (rubric : JudgeRubric F) (threshold : F) :
    ((∃ reply, parseResponse py loads content rubric threshold = .ok reply) ∧
        ∀ reply, parseResponse py loads content rubric threshold = .ok reply →
          reply.status = "passed" →
          Passing py rubric threshold (loads content)) ↔
      Readable py rubric (loads content) := by
  rw [← parseLoaded_returns_iff threshold]
  exact and_iff_left fun _ hparse hpassed => parseLoaded_passed hparse hpassed

end Laws

namespace JudgeWitness

def rationals : Floats Rat where
  ofNat n := n
  ofInt n := if n.natAbs < 2 ^ 1024 then some n else none
  le x y := decide (x ≤ y)
  div x y := x / y
  mul x y := x * y
  sum := List.sum
  round x n := (x * 10 ^ n).floor / 10 ^ n
  fixed n x := toString ((x * 10 ^ n).floor) ++ "e-" ++ toString n

def rubric : JudgeRubric Rat where
  id := pyStr "general-code@1"
  dimensions := [
    { id := pyStr "correctness", weight := 35 / 100, critical := true },
    { id := pyStr "completeness", weight := 25 / 100 },
    { id := pyStr "maintainability", weight := 15 / 100 },
    { id := pyStr "security", weight := 15 / 100, critical := true },
    { id := pyStr "verification", weight := 10 / 100 }]

def answer (verdict : JsonValue Rat) : JsonValue Rat :=
  .dict [(pyStr "verdict", verdict), (pyStr "dimensions", .list []),
    (pyStr "summary", .str [])]

def content : String :=
  "\x7b\"verdict\": [], \"dimensions\": [], \"summary\": \"\"\x7d"

def loads (text : String) : Loaded Rat :=
  if text = content then .value (answer (.list [])) else .invalid

/-- A verdict that is a list has no hash. -/
theorem list_verdict_raises :
    parseResponse rationals loads content rubric (3 / 4) =
        .error "unhashable type: 'list'" ∧
      ¬ ∃ reply, parseResponse rationals loads content rubric (3 / 4) =
        .ok reply := by
  have hraises : parseResponse rationals loads content rubric (3 / 4) =
      .error "unhashable type: 'list'" := rfl
  refine ⟨hraises, ?_⟩
  rintro ⟨reply, hreply⟩
  rw [hraises] at hreply
  cases hreply

end JudgeWitness

end Voly.Judge
