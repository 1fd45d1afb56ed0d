/-
Generated and vendored files: what a path is taken for, and where its
directories are misread.
-/
import Voly.Plan.PytestScope

namespace Voly

open Python

def generatedBasenames : List String :=
  ["package-lock.json", "yarn.lock", "pnpm-lock.yaml", "poetry.lock",
    "Pipfile.lock", "Cargo.lock", "go.sum", "composer.lock", ".coverage"]

def generatedPrefixes : List String :=
  ["node_modules/", ".venv/", "venv/", "__pycache__/", ".pytest_cache/",
    ".mypy_cache/", ".ruff_cache/", ".tox/"]

/-- `rel.replace("\\", "/").lstrip("./")`. -/
def normPath (rel : String) : List Char :=
  (slashed rel).dropWhile fun c => c = '.' ∨ c = '/'

/-- `Path(rel).name`. -/
def pathName (rel : String) : String := (Files.parts rel).getLast?.getD ""

def underPrefix (norm pre : List Char) : Prop :=
  pre <+: norm ∨ '/' :: pre <:+: '/' :: norm

instance (norm pre : List Char) : Decidable (underPrefix norm pre) :=
  inferInstanceAs (Decidable (_ ∨ _))

/-- The test of `_is_generated_file` on an extra pattern. -/
def matchesExtra (rel pat : String) : Bool :=
  let pat := ((slashed pat).dropWhile (· = '/')).rdropWhile (· = '/')
  pat ≠ [] && ((pathName rel).toList = pat || normPath rel = pat ||
    (pat ++ ['/']) <+: normPath rel || pat ∈ (normPath rel).splitOn '/')

def isGeneratedFile (rel : String) (extraPatterns : List String) : Bool :=
  pathName rel ∈ generatedBasenames ||
    (∃ pre ∈ generatedPrefixes, underPrefix (normPath rel) pre.toList) ||
    extraPatterns.any (matchesExtra rel)

/-- The names of the directories on a path. -/
def dirsOf (path : List Char) : List (List Char) :=
  (path.splitOn '/').dropLast

def generatedDirs : List (List Char) :=
  generatedPrefixes.map fun pre => pre.toList.dropLast

/-- The path lies below a directory of the list. -/
def BelowGenerated (path : List Char) : Prop :=
  ∃ name ∈ generatedDirs, name ∈ dirsOf path

/-- A file of a basename of the list, or one that a pattern is given for. -/
def Listed (rel : String) (extraPatterns : List String) : Prop :=
  pathName rel ∈ generatedBasenames ∨
    extraPatterns.any (matchesExtra rel) = true

/-- Excluded are the files below the directories and the listed ones only. -/
def RightlyExcluded (rel : String) (extraPatterns : List String) : Prop :=
  (BelowGenerated (slashed rel) → isGeneratedFile rel extraPatterns = true) ∧
    (isGeneratedFile rel extraPatterns = true →
      BelowGenerated (slashed rel) ∨ Listed rel extraPatterns)

def dotsBefore : List Char → List Char → List Char
  | dots, '.' :: path => dotsBefore (dots ++ ['.']) path
  | _, '/' :: path => dotsBefore [] path
  | dots, _ => dots

/-- That component without its dots, and what is behind it. -/
def firstName (rel : String) : List Char := (normPath rel).takeWhile (· ≠ '/')

def behindFirst (rel : String) : List Char := (normPath rel).dropWhile (· ≠ '/')

/-- The first component is a listed name with its dots iff without them. -/
def FitsDots (rel : String) (extraPatterns : List String) : Prop :=
  Listed rel extraPatterns ∨ BelowGenerated (behindFirst rel).tail ∨
    behindFirst rel = [] ∨
    (dotsBefore [] (slashed rel) ++ firstName rel ∈ generatedDirs ↔
      firstName rel ∈ generatedDirs)

theorem dirsOf_slash (a b : List Char) :
    dirsOf (a ++ '/' :: b) = a.splitOn '/' ++ dirsOf b := by
  unfold dirsOf
  rw [List.splitOn_append_cons_self,
    List.dropLast_append_of_ne_nil (List.splitOn_ne_nil _ _)]

theorem dirsOf_name {a : List Char} (h : '/' ∉ a) : dirsOf a = [] := by
  rw [dirsOf, List.splitOn_eq_singleton h]
  rfl

theorem mem_dirsOf_iff {name s : List Char} (hname : '/' ∉ name) :
    underPrefix s (name ++ ['/']) ↔ name ∈ dirsOf s := by
  have hhead (v : List Char) : name ∈ dirsOf (name ++ '/' :: v) := by
    rw [dirsOf_slash, List.splitOn_eq_singleton hname]
    exact List.mem_append_left _ List.mem_cons_self
  constructor
  · rintro (⟨v, rfl⟩ | ⟨u, v, h⟩)
    · simpa using hhead v
    · cases u with
      | nil =>
          simp only [List.nil_append, List.cons_append, List.cons.injEq,
            true_and] at h
          rw [← h]
          simpa using hhead v
      | cons c u =>
          simp only [List.cons_append, List.cons.injEq] at h
          rw [← h.2]
          simp only [List.append_assoc, List.cons_append, List.nil_append]
          rw [dirsOf_slash]
          exact List.mem_append_right _ (hhead v)
  · intro h
    refine Or.inr ?_
    induction hn : s.length using Nat.strong_induction_on generalizing s with
    | _ n ih =>
      by_cases hslash : '/' ∈ s
      · obtain ⟨a, b, rfl, ha⟩ := List.eq_append_cons_of_mem hslash
        rw [dirsOf_slash, List.splitOn_eq_singleton ha] at h
        rcases List.mem_cons.mp h with rfl | h
        · exact ⟨[], b, by simp⟩
        · have hless : b.length < n := by
            rw [← hn, List.length_append, List.length_cons]
            omega
          exact (ih _ hless h rfl).trans ⟨'/' :: a, [], by simp⟩
      · rw [dirsOf_name hslash] at h
        cases h

theorem mem_dirsOf_dots {name : List Char} (hname : ∃ c ∈ name, c ≠ '.')
    {dots path : List Char} (hdots : ∀ c ∈ dots, c = '.') :
    name ∈ dirsOf (dots ++ path) ↔ name ∈ dirsOf (dotsBefore dots path ++
      path.dropWhile fun c => c = '.' ∨ c = '/') := by
  fun_induction dotsBefore dots path with
  | case1 dots path ih =>
      rw [List.append_cons, ih]
      · rfl
      · exact List.forall_mem_append.mpr
          ⟨hdots, List.forall_mem_singleton.mpr rfl⟩
  | case2 dots path ih =>
      have hplain : '/' ∉ dots := fun hmem => absurd (hdots _ hmem) (by decide)
      rw [dirsOf_slash, List.splitOn_eq_singleton hplain, List.mem_append,
        List.mem_singleton]
      have hne : name ≠ dots := by
        rintro rfl
        obtain ⟨c, hmem, hc⟩ := hname
        exact hc (hdots c hmem)
      rw [or_iff_right hne]
      exact ih (List.forall_mem_nil _)
  | case3 path dots hdot hslash =>
      cases path with
      | nil => rfl
      | cons c path =>
          have hc : ¬ (c = '.' ∨ c = '/') := by
            rintro (rfl | rfl)
            · exact hdot path rfl
            · exact hslash path rfl
          rw [List.dropWhile_cons_of_neg]
          rwa [decide_eq_true_iff]

theorem dotsBefore_dots {dots path : List Char} (h : ∀ c ∈ dots, c = '.') :
    '/' ∉ dotsBefore dots path := by
  fun_induction dotsBefore dots path with
  | case1 dots path ih =>
      exact ih (List.forall_mem_append.mpr
        ⟨h, List.forall_mem_singleton.mpr rfl⟩)
  | case2 dots path ih => exact ih (List.forall_mem_nil _)
  | case3 => exact fun hmem => absurd (h _ hmem) (by decide)

theorem mem_dirsOf_first {name dots norm : List Char} (hdots : '/' ∉ dots) :
    name ∈ dirsOf (dots ++ norm) ↔
      norm.dropWhile (· ≠ '/') ≠ [] ∧
          dots ++ norm.takeWhile (· ≠ '/') = name ∨
        name ∈ dirsOf (norm.dropWhile (· ≠ '/')).tail := by
  have hfirst : '/' ∉ dots ++ norm.takeWhile (· ≠ '/') := by
    intro hmem
    rcases List.mem_append.mp hmem with hmem | hmem
    · exact hdots hmem
    · simpa using List.mem_takeWhile_imp hmem
  conv_lhs => rw [← @List.takeWhile_append_dropWhile _ (· ≠ '/') norm]
  rw [← List.append_assoc]
  cases hbehind : norm.dropWhile (· ≠ '/') with
  | nil =>
      rw [List.append_nil, dirsOf_name hfirst]
      simp [dirsOf]
  | cons c more =>
      have hc := List.head?_dropWhile_not (· ≠ '/') norm
      simp only [hbehind, List.head?_cons, decide_eq_false_iff_not, ne_eq,
        not_not] at hc
      rw [hc, dirsOf_slash, List.splitOn_eq_singleton hfirst]
      simp [eq_comm]

theorem belowGenerated_dots (rel : String) {dots : List Char}
    (hdots : '/' ∉ dots) :
    BelowGenerated (dots ++ normPath rel) ↔
      behindFirst rel ≠ [] ∧ dots ++ firstName rel ∈ generatedDirs ∨
        BelowGenerated (behindFirst rel).tail := by
  unfold BelowGenerated behindFirst firstName
  simp only [mem_dirsOf_first hdots, and_or_left, exists_or]
  refine or_congr_left ⟨?_, fun h => ⟨_, h.2, h.1, rfl⟩⟩
  rintro ⟨_, hmem, hbehind, rfl⟩
  exact ⟨hbehind, hmem⟩

theorem isGeneratedFile_iff (rel : String) (extraPatterns : List String) :
    isGeneratedFile rel extraPatterns = true ↔
      Listed rel extraPatterns ∨ BelowGenerated (normPath rel) := by
  have hnames : ∀ pre ∈ generatedPrefixes,
      pre.toList.dropLast ++ ['/'] = pre.toList ∧
        '/' ∉ pre.toList.dropLast := by
    decide +kernel
  have hunder : (∃ pre ∈ generatedPrefixes,
      underPrefix (normPath rel) pre.toList) ↔
        BelowGenerated (normPath rel) := by
    simp only [BelowGenerated, generatedDirs, List.mem_map,
      exists_exists_and_eq_and]
    refine exists_congr fun pre => and_congr_right fun hmem => ?_
    obtain ⟨hwhole, hslash⟩ := hnames pre hmem
    rw [← mem_dirsOf_iff hslash, hwhole]
  simp only [isGeneratedFile, Listed, Bool.or_eq_true, decide_eq_true_eq,
    hunder]
  tauto

namespace GeneratedWitness

end GeneratedWitness

end Voly
