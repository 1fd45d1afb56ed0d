/-
The lead's assignments: which answers are read into well-formed assignments,
and which one makes the loop raise.
-/
import Voly.A2A.Lead
import Voly.Python.Loops

namespace Voly.A2A

open Python

section Rounds

variable {supply : Supply} {provider tier role : String}

theorem modelOf_ok (h : provider ∈ supply.catalogue.models.keys) :
    ∃ pair, modelOf supply provider = .ok pair := by
  obtain ⟨pair, hpair⟩ := Dict.exists_get? h
  exact ⟨pair, by rw [modelOf, hpair]⟩

theorem modelOf_healthy (h : provider ∈ healthyProvidersForTier supply tier) :
    ∃ pair, modelOf supply provider = .ok pair :=
  modelOf_ok (mem_healthyProvidersForTier.mp h).2.2.1

theorem resolveTierModel_ok (tier : String)
    (h : "anthropic" ∈ supply.catalogue.models.keys) :
    ∃ pair, resolveTierModel supply tier = .ok pair := by
  unfold resolveTierModel
  dsimp only
  split
  · next provider rest hpool =>
      apply @modelOf_healthy supply provider tier
      rw [hpool]
      exact List.mem_cons_self
  · split
    · next provider hfound =>
        have hknown := List.find?_some hfound
        rw [Bool.and_eq_true, decide_eq_true_iff] at hknown
        exact modelOf_ok hknown.1
    · split
      · next row _ => exact ⟨row.2, rfl⟩
      · exact modelOf_ok h

theorem resolveRoleModel_ok (role tier : String)
    (h : "anthropic" ∈ supply.catalogue.models.keys) :
    ∃ pair, resolveRoleModel supply role tier = .ok pair := by
  unfold resolveRoleModel
  dsimp only
  split
  · exact resolveTierModel_ok _ h
  · next hpool =>
      apply @modelOf_healthy supply _ (orElse tier (roleTier (roleKey role)))
      have hpos := List.length_pos_iff.mpr hpool
      rw [List.getD_eq_getElem?_getD,
        List.getElem?_eq_getElem (Nat.mod_lt _ hpos), Option.getD_some]
      exact List.getElem_mem _

theorem knownSkills_ok (validIds : List String) (skills : List Doc) :
    (∃ kept, knownSkills validIds skills = .ok kept) ↔
      ∀ s ∈ skills, hashable s = true := by
  induction skills with
  | nil => exact ⟨fun _ => List.forall_mem_nil _, fun _ => ⟨[], rfl⟩⟩
  | cons s rest ih =>
      rw [List.forall_mem_cons]
      cases s with
      | atom x => simpa [knownSkills, hashable] using ih
      | str s =>
          rw [← ih]
          cases hrest : knownSkills validIds rest with
          | error e => simp [knownSkills, hrest, Except.map]
          | ok kept => simp [knownSkills, hrest, Except.map, hashable]
      | list items => simp [knownSkills, hashable]
      | dict items => simp [knownSkills, hashable]

end Rounds
def KnownRole (role : String) : Prop := roleKey role ∈ roleRegistry.keys

/-- Each assignment has its own index, known dependencies, a known role, a legal
tier. -/
structure WellAssigned (assignments : List Assignment) : Prop where
  idx_nodup : (assignments.map Assignment.idx).Nodup
  depends : ∀ a ∈ assignments, ∀ d ∈ a.dependsOn,
    d ∈ assignments.map Assignment.idx
  roles : ∀ a ∈ assignments, KnownRole a.role
  tiers : ∀ a ∈ assignments, a.tier ∈ validTiers

def AssignsWell (out : Except PyError (List Assignment)) : Prop :=
  ∃ assignments, out = .ok assignments ∧ WellAssigned assignments

/-- No skill that the last row for a sub-task lists is a list or an object. -/
def SkillsHashable (row : Option LeadEntry) : Prop :=
  ∀ entry ∈ row, ∀ s ∈ entry.skills, hashable s = true

/-- The last row for a sub-task names a legal tier, or its default tier is
legal. -/
def TierLegal (row : Option LeadEntry) (fallback : String) : Prop :=
  (∃ entry ∈ row, ∃ tier ∈ validTiers, entry.tier = some (.str tier)) ∨
    fallback ∈ validTiers

theorem tierOr_legal (row : Option LeadEntry) (fallback : String) :
    (row.getD {}).tierOr fallback ∈ validTiers ↔ TierLegal row fallback := by
  have hlegal : ∀ tier ∈ validTiers, truthy (.str tier) = true := by decide
  unfold LeadEntry.tierOr TierLegal
  split
  · next tier hfilter =>
      obtain ⟨htier, _⟩ := Option.filter_eq_some_iff.mp hfilter
      obtain ⟨entry, rfl⟩ : ∃ entry, row = some entry := by
        cases row with
        | none => cases htier
        | some entry => exact ⟨entry, rfl⟩
      have hentry : entry.tier = some (.str tier) := htier
      split
      · next hvalid =>
          simp only [hvalid, true_iff]
          exact Or.inl ⟨entry, rfl, tier, hvalid, hentry⟩
      · next hvalid =>
          refine ⟨Or.inr, fun h => h.resolve_left ?_⟩
          rintro ⟨_, hrow, other, hother, hsame⟩
          cases hrow
          cases hentry.symm.trans hsame
          exact hvalid hother
  · next hnone =>
      refine ⟨Or.inr, fun h => h.resolve_left ?_⟩
      rintro ⟨entry, hrow, tier, hvalid, htier⟩
      cases hrow
      apply hnone tier
      rw [Option.getD_some, htier, Option.filter_some, if_pos]
      exact hlegal tier hvalid

section Whole

variable {lead : LeadOrchestrator} {py : JsonBuiltins} {task : String}
  {subtasks : List Subtask} {plan : LeadPlan} {supply : Supply} {st : Subtask}
  {i : Nat}

/-- What a round of the loop leaves of its sub-task. -/
structure RoundKept (lead : LeadOrchestrator) (row : Option LeadEntry)
    (st : Subtask) (i : Nat) (a : Assignment) : Prop where
  idx : a.idx = i
  role : a.role = st.agent
  dependsOn : a.dependsOn = st.dependsOn.map Int.ofNat
  tier : a.tier = (row.getD {}).tierOr (lead.fallbackTier st.agent)

theorem RoundKept.unpromoted {row : Option LeadEntry} {a : Assignment}
    (h : RoundKept lead row st i a) : RoundKept lead row st i a.unpromoted := by
  unfold Assignment.unpromoted
  split
  · exact ⟨h.idx, h.role, h.dependsOn, h.tier⟩
  · exact h

theorem assignSubtask_kept {a : Assignment}
    (h : lead.assignSubtask task plan supply st i = .ok a) :
    RoundKept lead (plan.row? i) st i a := by
  obtain ⟨kept, _, h⟩ := ok_of_bind h
  obtain ⟨⟨model, provider⟩, _, h⟩ := ok_of_bind h
  cases h
  apply RoundKept.unpromoted
  exact ⟨rfl, rfl, rfl, rfl⟩

theorem assignSubtask_ok (hsupply : supply.catalogue = leadCatalogue) :
    (∃ a, lead.assignSubtask task plan supply st i = .ok a) ↔
      SkillsHashable (plan.row? i) := by
  have hskills : SkillsHashable (plan.row? i) ↔
      ∀ s ∈ ((plan.row? i).getD {}).skills, hashable s = true := by
    unfold SkillsHashable
    cases plan.row? i with
    | none => simp
    | some entry => simp
  rw [hskills, ← knownSkills_ok
    ((lead.candidateSkills task st.agent).map Prod.fst)]
  constructor
  · rintro ⟨a, ha⟩
    obtain ⟨kept, hkept, _⟩ := ok_of_bind ha
    exact ⟨kept, hkept⟩
  · rintro ⟨kept, hkept⟩
    have hlast : "anthropic" ∈ supply.catalogue.models.keys := by
      rw [hsupply]
      decide
    obtain ⟨pair, hpair⟩ := resolveRoleModel_ok st.agent
      (((plan.row? i).getD {}).tierOr (lead.fallbackTier st.agent)) hlast
    unfold LeadOrchestrator.assignSubtask
    dsimp only
    rw [hkept]
    dsimp only [bind, Except.bind]
    rw [hpair]
    exact ⟨_, rfl⟩

theorem excluding_catalogue (supply : Supply) (provider error : String) :
    (supply.excluding provider error).catalogue = supply.catalogue := by
  unfold Supply.excluding
  split
  · rfl
  · split
    · rfl
    · split
      · rfl
      · rfl

theorem leadPair_ok (lead : LeadOrchestrator) :
    ∃ pair, lead.leadPair = .ok pair := by
  unfold LeadOrchestrator.leadPair
  split
  · apply resolveRoleModel_ok
    change "anthropic" ∈ providerModels.keys
    decide
  · exact ⟨_, rfl⟩

theorem readReply_row (py : JsonBuiltins) (reply : ChatReply) (i : Nat) :
    (LeadOrchestrator.readReply py reply).1.row? i =
      lastRow py i (match reply with
        | .error _ => []
        | .ok response =>
            if response.error ≠ "" then []
            else planItems py response.content) := by
  unfold LeadOrchestrator.readReply
  cases reply with
  | error e => rfl
  | ok response =>
      dsimp only
      split
      · rfl
      · rcases parsePlan_spec py response.content with
          ⟨plan, hplan, hrow⟩ | ⟨⟨e, he⟩, hnone⟩
        · rw [hplan]
          exact hrow i
        · rw [he, hnone]
          rfl

theorem plan_spec (lead : LeadOrchestrator) (py : JsonBuiltins) (task : String)
    (subtasks : List Subtask) :
    ∃ plan supply, lead.planFor py task subtasks = .ok (plan, supply) ∧
      supply.catalogue = leadCatalogue ∧
      ∀ i, plan.row? i = lastRow py i (lead.answer py task subtasks) := by
  unfold LeadOrchestrator.planFor LeadOrchestrator.answer
  split
  · obtain ⟨pair, hpair⟩ := leadPair_ok lead
    have hrow := readReply_row py
      (lead.gateway (lead.request task subtasks pair))
    unfold LeadOrchestrator.askLead
    rw [hpair]
    exact ⟨_, _, rfl, excluding_catalogue _ _ _, hrow⟩
  · exact ⟨[], lead.supply, rfl, rfl, fun _ => rfl⟩

section

variable {out : List Assignment}
  (h : subtasks.zipIdx.mapM (fun row => lead.assignSubtask task plan supply
    row.1 row.2) = .ok out)
include h

theorem mapM_kept :
    out.map Assignment.idx = (List.range subtasks.length).map Int.ofNat ∧
    (out.map fun a => (a.role, a.dependsOn, a.tier)) =
      subtasks.zipIdx.map fun row => (row.1.agent,
        row.1.dependsOn.map Int.ofNat,
        ((plan.row? row.2).getD {}).tierOr
          (lead.fallbackTier row.1.agent)) := by
  constructor
  · have hidx : out.map Assignment.idx =
        subtasks.zipIdx.map fun row => Int.ofNat row.2 :=
      map_of_mapM (fun row _ a ha => (assignSubtask_kept ha).idx) h
    calc
      out.map Assignment.idx =
          (subtasks.zipIdx.map Prod.snd).map Int.ofNat := by
        rw [hidx, List.map_map]
        rfl
      _ = (List.range subtasks.length).map Int.ofNat := by
        rw [List.zipIdx_map_snd, List.range_eq_range']
  · apply map_of_mapM _ h
    intro row _ a ha
    have hkept := assignSubtask_kept ha
    rw [hkept.role, hkept.dependsOn, hkept.tier]

/-- Each sub-task has a known role, dependencies that are there, and a legal
tier. -/
theorem wellAssigned_iff :
    WellAssigned out ↔ ∀ row ∈ subtasks.zipIdx, KnownRole row.1.agent ∧
      (∀ d ∈ row.1.dependsOn, d < subtasks.length) ∧
      TierLegal (plan.row? row.2) (lead.fallbackTier row.1.agent) := by
  obtain ⟨hidx, hkept⟩ := mapM_kept h
  have hnodup : (out.map Assignment.idx).Nodup := by
    rw [hidx]
    exact List.nodup_range.map fun _ _ hsame => Int.ofNat.inj hsame
  have hmem : ∀ d : Nat, Int.ofNat d ∈ out.map Assignment.idx ↔
      d < subtasks.length := by
    intro d
    rw [hidx, List.mem_map_of_injective fun _ _ hsame => Int.ofNat.inj hsame]
    exact List.mem_range
  have hall (P : String × List Int × String → Prop) :
      (∀ a ∈ out, P (a.role, a.dependsOn, a.tier)) ↔
        ∀ row ∈ subtasks.zipIdx, P (row.1.agent,
          row.1.dependsOn.map Int.ofNat,
          ((plan.row? row.2).getD {}).tierOr
            (lead.fallbackTier row.1.agent)) := by
    rw [← List.forall_mem_map (l := out), hkept, List.forall_mem_map]
  have hroles := hall fun kept => KnownRole kept.1
  have hdepends := hall fun kept =>
    ∀ d ∈ kept.2.1, d ∈ out.map Assignment.idx
  have htiers := hall fun kept => kept.2.2 ∈ validTiers
  simp only [List.forall_mem_map, hmem] at hdepends
  simp only [tierOr_legal] at htiers
  constructor
  · intro hwell row hrow
    exact ⟨hroles.mp hwell.roles row hrow, hdepends.mp hwell.depends row hrow,
      htiers.mp hwell.tiers row hrow⟩
  · intro hrows
    exact
      { idx_nodup := hnodup
        depends := hdepends.mpr fun row hrow => (hrows row hrow).2.1
        roles := hroles.mpr fun row hrow => (hrows row hrow).1
        tiers := htiers.mpr fun row hrow => (hrows row hrow).2.2 }

end

end Whole

/-- What a sub-task and the lead's last row for it have to be. -/
structure Assignable (lead : LeadOrchestrator) (count : Nat) (st : Subtask)
    (row : Option LeadEntry) : Prop where
  role : KnownRole st.agent
  depends : ∀ d ∈ st.dependsOn, d < count
  tier : TierLegal row (lead.fallbackTier st.agent)
  skills : SkillsHashable row

/-- The assignments are returned well formed iff every sub-task has a known
role, known dependencies and a legal tier, and its last row lists no skill that
is a list or an object. -/
theorem lead_assign_iff (lead : LeadOrchestrator) (py : JsonBuiltins)
    (task : String) (subtasks : List Subtask) :
    AssignsWell (lead.assign py task subtasks) ↔
      ∀ row ∈ subtasks.zipIdx, Assignable lead subtasks.length row.1
        (lastRow py row.2 (lead.answer py task subtasks)) := by
  obtain ⟨plan, supply, hplan, hsupply, hrows⟩ :=
    plan_spec lead py task subtasks
  have hassign : lead.assign py task subtasks =
      subtasks.zipIdx.mapM fun row =>
        lead.assignSubtask task plan supply row.1 row.2 := by
    unfold LeadOrchestrator.assign
    rw [hplan]
    rfl
  rw [hassign]
  simp only [← hrows]
  constructor
  · rintro ⟨out, hout, hwell⟩ row hrow
    obtain ⟨hrole, hdepends, htier⟩ :=
      (wellAssigned_iff hout).mp hwell row hrow
    have hskills := (assignSubtask_ok hsupply).mp
      (exists_of_mapM hout row hrow)
    exact ⟨hrole, hdepends, htier, hskills⟩
  · intro hall
    obtain ⟨out, hout⟩ := exists_mapM fun row hrow =>
      (@assignSubtask_ok lead task plan supply row.1 row.2 hsupply).mpr
        (hall row hrow).skills
    refine ⟨out, hout, (wellAssigned_iff hout).mpr fun row hrow => ?_⟩
    have hrow' := hall row hrow
    exact ⟨hrow'.role, hrow'.depends, hrow'.tier⟩

namespace LeadWitness

def builtins : JsonBuiltins where
  loads text :=
    match (loads text.toList).filter Doc.proper with
    | some value => .ok value
    | none => .error (.value "not JSON")
  str
    | .str s => .ok s
    | _ => .error (.other "not a text")
  int value :=
    match value.int? with
    | some n => .ok n
    | none => .error (.type "not an integer")

def answering (content : String) : LeadOrchestrator where
  gateway _ := .ok { content }
  skillMatcher := some fun _ _ => [("pytest", "Pytest")]
  healthy _ := true

def subtasks : List Subtask :=
  [{ description := "Implement", agent := "developer" },
    { description := "Write tests", agent := "tester", dependsOn := [0] }]

def nested : LeadOrchestrator :=
  answering "[\x7b\"idx\": 1, \"skills\": [[\"pytest\"]]\x7d]"

def failure (out : Except PyError (List Assignment)) : Option String :=
  match out with
  | .ok _ => none
  | .error e => some e.text

theorem nested_skills_raise :
    failure (nested.assign builtins "task" subtasks) =
      some "unhashable type: 'list'" ∧
    ¬AssignsWell (nested.assign builtins "task" subtasks) := by
  have hfails : failure (nested.assign builtins "task" subtasks) =
      some "unhashable type: 'list'" := by
    decide +kernel
  refine ⟨hfails, ?_⟩
  rintro ⟨out, hout, _⟩
  rw [hout] at hfails
  cases hfails

end LeadWitness

end Voly.A2A
