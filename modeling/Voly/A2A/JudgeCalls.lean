/-
Tool calls of the agentic judge that end a run with an exception: which names
and arguments they have.
-/
import Voly.A2A.AgenticJudge

namespace Voly.A2A

open Python Files

def Crashed {A : Type} (x : Except ToolError A) : Prop :=
  ∃ text, x = .error (.crashed text)

section Crashed

variable {A B : Type} {x : Except ToolError A} {f : A → Except ToolError B}
  {arguments : Dict Doc} {parameters : List String} {key : String}
  {default : Option Doc}

theorem not_crashed_ok (a : A) : ¬Crashed (.ok a : Except ToolError A) := by
  rintro ⟨text, h⟩
  cases h

theorem not_crashed_refused (text : String) :
    ¬Crashed (.error (.refused text) : Except ToolError A) := by
  rintro ⟨_, h⟩
  cases h

theorem crashed_bind :
    Crashed (x >>= f) ↔ Crashed x ∨ ∃ a, x = .ok a ∧ Crashed (f a) := by
  cases x with
  | ok a =>
      constructor
      · exact fun h => Or.inr ⟨a, rfl, h⟩
      · rintro (h | ⟨_, ha, h⟩)
        · exact absurd h (not_crashed_ok a)
        · cases ha
          exact h
  | error e =>
      constructor
      · rintro ⟨text, h⟩
        cases h
        exact Or.inl ⟨text, rfl⟩
      · rintro (⟨text, h⟩ | ⟨_, ha, _⟩)
        · cases h
          exact ⟨text, rfl⟩
        · cases ha

theorem checkKeywords_cases (parameters : List String)
    (arguments : Dict Doc) :
    (Crashed (JudgeWorkspace.checkKeywords parameters arguments) ∧
      ∃ item ∈ arguments, item.1 ∉ parameters) ∨
    (JudgeWorkspace.checkKeywords parameters arguments = .ok () ∧
      ¬∃ item ∈ arguments, item.1 ∉ parameters) := by
  unfold JudgeWorkspace.checkKeywords
  split
  · next h => exact Or.inl ⟨⟨_, rfl⟩, by simpa using h⟩
  · next h => exact Or.inr ⟨rfl, by simpa using h⟩

theorem crashed_keywords {next : Except ToolError A} :
    Crashed (do
      JudgeWorkspace.checkKeywords parameters arguments
      next) ↔ (∃ item ∈ arguments, item.1 ∉ parameters) ∨ Crashed next := by
  rw [crashed_bind]
  rcases checkKeywords_cases parameters arguments with
    ⟨hcrashed, hunknown⟩ | ⟨hok, hknown⟩
  · exact ⟨fun _ => Or.inl hunknown, fun _ => Or.inl hcrashed⟩
  · rw [hok]
    simp [hknown, not_crashed_ok]

theorem argument_default (value : Doc) :
    JudgeWorkspace.argument arguments key (some value) =
      .ok ((arguments.get? key).getD value) := by
  unfold JudgeWorkspace.argument
  cases arguments.get? key with
  | some _ => rfl
  | none => rfl

theorem crashed_required {next : Doc → Except ToolError A} :
    Crashed (JudgeWorkspace.argument arguments key none >>= next) ↔
      arguments.get? key = none ∨
        ∃ value, arguments.get? key = some value ∧ Crashed (next value) := by
  unfold JudgeWorkspace.argument
  cases arguments.get? key with
  | some value => simp [crashed_bind, not_crashed_ok]
  | none => exact ⟨fun _ => Or.inl rfl, fun _ => ⟨_, rfl⟩⟩

end Crashed

namespace JudgeWorkspace

variable (ws : JudgeWorkspace)

/-- No text, or a path into a loop of links. -/
def PathLost (relative : Doc) : Prop :=
  ∀ text, relative = .str text →
    Char.ofNat 0 ∉ text.toList ∧ ws.files.realpath (ws.joined text) = none

def pathOf (arguments : Dict Doc) : Doc :=
  (arguments.get? "path").getD (.str ".")

def toolParameters : Dict (List String) :=
  [("list_files", ["path"]), ("read_file", ["path"]),
    ("search_text", ["query", "path"]), ("git_diff", [])]

/-- The calls that raise something else than a tool may. -/
inductive Crashes : String → Dict Doc → Prop
  | keyword {name : String} {arguments : Dict Doc} {parameters : List String}
      {item : String × Doc} (htool : (name, parameters) ∈ toolParameters)
      (hitem : item ∈ arguments) (hunknown : item.1 ∉ parameters) :
      Crashes name arguments
  | list {arguments : Dict Doc} (hpath : ws.PathLost (pathOf arguments)) :
      Crashes "list_files" arguments
  | readNothing {arguments : Dict Doc}
      (hmissing : arguments.get? "path" = none) :
      Crashes "read_file" arguments
  | read {arguments : Dict Doc} {relative : Doc}
      (hrelative : arguments.get? "path" = some relative)
      (hpath : ws.PathLost relative) : Crashes "read_file" arguments
  | searchNothing {arguments : Dict Doc}
      (hmissing : arguments.get? "query" = none) :
      Crashes "search_text" arguments
  | searchPath {arguments : Dict Doc} {query : Doc}
      (hquery : arguments.get? "query" = some query)
      (htruthy : truthy query = true)
      (hpath : ws.PathLost (pathOf arguments)) :
      Crashes "search_text" arguments
  | searchQuery {arguments : Dict Doc} {query : Doc} {base : Path}
      (hquery : arguments.get? "query" = some query)
      (htruthy : truthy query = true) (hkind : ∀ text, query ≠ .str text)
      (hbase : ws.path (pathOf arguments) = .ok base)
      (hlines : ws.searchedLines base ≠ []) : Crashes "search_text" arguments

section Calls

variable {ws} {relative query : Doc} {limit : Nat} {name : String}
  {arguments : Dict Doc}

theorem resolve_crashed (text : String) : Crashed (ws.resolve text) ↔
    Char.ofNat 0 ∉ text.toList ∧
      ws.files.realpath (ws.joined text) = none := by
  unfold resolve
  split
  · next hnul =>
      exact ⟨fun h => absurd h (not_crashed_refused _),
        fun h => absurd hnul h.1⟩
  · next hnul =>
      cases ws.files.realpath (ws.joined text) with
      | some candidate =>
          exact ⟨fun h => absurd h (not_crashed_ok _), fun h => nomatch h.2⟩
      | none => exact ⟨fun _ => ⟨hnul, rfl⟩, fun _ => ⟨_, rfl⟩⟩

theorem path_crashed : Crashed (ws.path relative) ↔ ws.PathLost relative := by
  have hother (hkind : ∀ text, relative ≠ .str text)
      (hpath : Crashed (ws.path relative)) :
      Crashed (ws.path relative) ↔ ws.PathLost relative :=
    ⟨fun _ text htext => absurd htext (hkind text), fun _ => hpath⟩
  cases relative with
  | str text =>
      have hlost : ws.PathLost (.str text) ↔ Crashed (ws.resolve text) := by
        rw [resolve_crashed]
        constructor
        · exact fun h => h text rfl
        · intro h _ htext
          cases htext
          exact h
      rw [hlost]
      constructor
      · intro h
        rcases crashed_bind.mp h with h | ⟨candidate, _, h⟩
        · exact h
        · split at h
          · exact absurd h (not_crashed_ok _)
          · exact absurd h (not_crashed_refused _)
      · exact fun h => crashed_bind.mpr (Or.inl h)
  | _ => exact hother (fun _ h => nomatch h) ⟨_, rfl⟩

theorem listFiles_crashed :
    Crashed (ws.listFiles relative) ↔ ws.PathLost relative := by
  unfold listFiles
  rw [crashed_bind, path_crashed]
  constructor
  · rintro (h | ⟨base, _, h⟩)
    · exact h
    · exact absurd h (not_crashed_ok _)
  · exact Or.inl

theorem readFile_crashed :
    Crashed (ws.readFile relative) ↔ ws.PathLost relative := by
  unfold readFile
  rw [crashed_bind, path_crashed]
  constructor
  · rintro (h | ⟨target, _, h⟩)
    · exact h
    · split at h
      · exact absurd h (not_crashed_refused _)
      · exact absurd h (not_crashed_refused _)
      · exact absurd h (not_crashed_ok _)
  · exact Or.inl

theorem searchBelow_crashed {base : Path} :
    Crashed (ws.searchBelow limit query base) ↔
      (∀ text, query ≠ .str text) ∧ ws.searchedLines base ≠ [] := by
  unfold searchBelow
  dsimp only
  split
  · next text =>
      exact ⟨fun h => absurd h (not_crashed_ok _),
        fun h => absurd rfl (h.1 text)⟩
  · next hkind =>
      split
      · next hnone =>
          exact ⟨fun h => absurd h (not_crashed_ok _),
            fun h => absurd hnone h.2⟩
      · next hsome => exact ⟨fun _ => ⟨hkind, hsome⟩, fun _ => ⟨_, rfl⟩⟩

theorem searchText_crashed : Crashed (ws.searchText limit query relative) ↔
    truthy query = true ∧ (ws.PathLost relative ∨
      (∀ text, query ≠ .str text) ∧
        ∃ base, ws.path relative = .ok base ∧ ws.searchedLines base ≠ []) := by
  unfold searchText
  split
  · next hfalsy =>
      refine ⟨fun h => absurd h (not_crashed_refused _), fun h => ?_⟩
      rw [h.1] at hfalsy
      cases hfalsy
  · next htruthy =>
      have htrue : truthy query = true := by simpa using htruthy
      rw [crashed_bind, path_crashed]
      simp only [searchBelow_crashed, htrue, true_and]
      apply or_congr_right
      constructor
      · rintro ⟨base, hbase, hkind, hlines⟩
        exact ⟨hkind, base, hbase, hlines⟩
      · rintro ⟨hkind, base, hbase, hlines⟩
        exact ⟨base, hbase, hkind, hlines⟩

theorem runGitDiff_not_crashed : ¬Crashed ws.runGitDiff := by
  unfold runGitDiff
  split
  · exact not_crashed_ok _
  · exact not_crashed_refused _

theorem list_crashed : Crashed (ws.call limit "list_files" arguments) ↔
    (∃ item ∈ arguments, item.1 ∉ ["path"]) ∨
      ws.PathLost (pathOf arguments) := by
  change Crashed (do
    checkKeywords ["path"] arguments
    let path ← argument arguments "path" (some (.str "."))
    ws.listFiles path) ↔ _
  rw [crashed_keywords, argument_default]
  exact or_congr_right listFiles_crashed

theorem read_crashed : Crashed (ws.call limit "read_file" arguments) ↔
    (∃ item ∈ arguments, item.1 ∉ ["path"]) ∨
      arguments.get? "path" = none ∨
        ∃ relative, arguments.get? "path" = some relative ∧
          ws.PathLost relative := by
  change Crashed (do
    checkKeywords ["path"] arguments
    let path ← argument arguments "path" none
    ws.readFile path) ↔ _
  rw [crashed_keywords, crashed_required]
  simp only [readFile_crashed]

theorem search_crashed : Crashed (ws.call limit "search_text" arguments) ↔
    (∃ item ∈ arguments, item.1 ∉ ["query", "path"]) ∨
      arguments.get? "query" = none ∨
        ∃ query, arguments.get? "query" = some query ∧
          truthy query = true ∧ (ws.PathLost (pathOf arguments) ∨
            (∀ text, query ≠ .str text) ∧
              ∃ base, ws.path (pathOf arguments) = .ok base ∧
                ws.searchedLines base ≠ []) := by
  change Crashed (do
    checkKeywords ["query", "path"] arguments
    let query ← argument arguments "query" none
    let path ← argument arguments "path" (some (.str "."))
    ws.searchText limit query path) ↔ _
  rw [crashed_keywords, crashed_required, argument_default]
  apply or_congr_right
  apply or_congr_right
  apply exists_congr
  intro query
  exact and_congr_right fun _ => searchText_crashed

theorem diff_crashed : Crashed (ws.call limit "git_diff" arguments) ↔
    ∃ item ∈ arguments, item.1 ∉ ([] : List String) := by
  change Crashed (do
    checkKeywords [] arguments
    ws.runGitDiff) ↔ _
  rw [crashed_keywords]
  exact or_iff_left runGitDiff_not_crashed

theorem call_crashed :
    Crashed (ws.call limit name arguments) ↔ ws.Crashes name arguments := by
  have hunknown {name : String} {parameters : List String}
      (htool : (name, parameters) ∈ toolParameters)
      (h : ∃ item ∈ arguments, item.1 ∉ parameters) :
      ws.Crashes name arguments := by
    obtain ⟨item, hitem, hnew⟩ := h
    exact .keyword htool hitem hnew
  constructor
  · intro h
    by_cases hlist : name = "list_files"
    · subst hlist
      rcases list_crashed.mp h with h | hpath
      · exact hunknown (by simp [toolParameters]) h
      · exact .list hpath
    by_cases hread : name = "read_file"
    · subst hread
      rcases read_crashed.mp h with h | hmissing | ⟨relative, hget, hpath⟩
      · exact hunknown (by simp [toolParameters]) h
      · exact .readNothing hmissing
      · exact .read hget hpath
    by_cases hsearch : name = "search_text"
    · subst hsearch
      rcases search_crashed.mp h with h | hmissing | ⟨query, hget, htruthy, h⟩
      · exact hunknown (by simp [toolParameters]) h
      · exact .searchNothing hmissing
      · rcases h with hpath | ⟨hkind, base, hbase, hlines⟩
        · exact .searchPath hget htruthy hpath
        · exact .searchQuery hget htruthy hkind hbase hlines
    by_cases hdiff : name = "git_diff"
    · subst hdiff
      exact hunknown (by simp [toolParameters]) (diff_crashed.mp h)
    · unfold call at h
      rw [if_neg hlist, if_neg hread, if_neg hsearch, if_neg hdiff] at h
      exact absurd h (not_crashed_refused _)
  · intro h
    cases h with
    | keyword htool hitem hnew =>
        simp only [toolParameters, List.mem_cons, Prod.mk.injEq,
          List.not_mem_nil, or_false] at htool
        rcases htool with ⟨rfl, rfl⟩ | ⟨rfl, rfl⟩ | ⟨rfl, rfl⟩ | ⟨rfl, rfl⟩
        · exact list_crashed.mpr (Or.inl ⟨_, hitem, hnew⟩)
        · exact read_crashed.mpr (Or.inl ⟨_, hitem, hnew⟩)
        · exact search_crashed.mpr (Or.inl ⟨_, hitem, hnew⟩)
        · exact diff_crashed.mpr ⟨_, hitem, hnew⟩
    | list hpath => exact list_crashed.mpr (Or.inr hpath)
    | readNothing hmissing =>
        exact read_crashed.mpr (Or.inr (Or.inl hmissing))
    | read hget hpath =>
        exact read_crashed.mpr (Or.inr (Or.inr ⟨_, hget, hpath⟩))
    | searchNothing hmissing =>
        exact search_crashed.mpr (Or.inr (Or.inl hmissing))
    | searchPath hget htruthy hpath =>
        exact search_crashed.mpr
          (Or.inr (Or.inr ⟨_, hget, htruthy, Or.inl hpath⟩))
    | searchQuery hget htruthy hkind hbase hlines =>
        exact search_crashed.mpr (Or.inr (Or.inr
          ⟨_, hget, htruthy, Or.inr ⟨hkind, _, hbase, hlines⟩⟩))

end Calls

end JudgeWorkspace

end Voly.A2A
