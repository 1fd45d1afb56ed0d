/-
The fingerprint of a golden dataset: its canonical JSON and the files of its
fixtures between marks.
-/
import Voly.Framing.Marks
import Voly.Python.Bytes
import Voly.Python.JsonDoc

namespace Voly

open Python Framing

def pathParts (text : String) : List String :=
  (text.toList.splitOn '/').map String.ofList

def isRelative (text : String) : Bool :=
  ((pathParts text).all fun part => part != "" && part != "." && part != "..")
    && !text.toList.contains (Char.ofNat 0)

/-- A path below a directory, in the form of `as_posix()`. -/
structure RelativePath where
  text : String
  shape : isRelative text = true
deriving DecidableEq

/-- The files below a fixture, a finite map listed in the order of its
paths. -/
structure FixtureTree where
  files : List (RelativePath × List UInt8)
  sorted : files.Pairwise fun file other =>
    pathParts file.1.text < pathParts other.1.text

structure GoldenCase where
  fixture : RelativePath

/-- The file content, its cases and the fixtures below its directory. -/
structure GoldenSource where
  data : Doc
  cases : List GoldenCase
  base : RelativePath → FixtureTree

namespace GoldenSource

variable (source : GoldenSource)

/-- `sorted({case.fixture for case in cases})`. -/
def fixtureNames : List RelativePath :=
  (source.cases.map GoldenCase.fixture).dedup.insertionSort
    fun name other => name.text ≤ other.text

end GoldenSource

def fixtureWord : List UInt8 := utf8 "fixture".toList

def fileWord : List UInt8 := utf8 "file".toList

def fileFrame (file : RelativePath × List UInt8) : List UInt8 :=
  mark 0 fileWord ++ utf8 file.1.text.toList ++ [0] ++ file.2

def fixtureFrame (base : RelativePath → FixtureTree) (relative : RelativePath) :
    List UInt8 :=
  mark 0 fixtureWord ++ utf8 relative.text.toList ++
    (base relative).files.flatMap fileFrame

/-- The order of `sort_keys=True`. -/
def byCodePoint (key other : String) : Bool := decide (key ≤ other)

/-- `json.dumps(data, ensure_ascii=False, sort_keys=True,
separators=(",", ":"))`. -/
def canonicalText (data : Doc) : List Char :=
  (data.sortKeys byCodePoint).write false

namespace GoldenSource

variable (source : GoldenSource)

/-- All that is passed to the digest. -/
def encoded : List UInt8 :=
  utf8 (canonicalText source.data) ++
    source.fixtureNames.flatMap (fixtureFrame source.base)

def datasetFingerprint (sha256 : List UInt8 → String) : String :=
  sha256 source.encoded

def Same (source other : GoldenSource) : Prop :=
  source.data.sortKeys byCodePoint = other.data.sortKeys byCodePoint ∧
    source.fixtureNames = other.fixtureNames ∧
    ∀ name ∈ source.fixtureNames, source.base name = other.base name

/-- No file holds a mark, alone or together with a byte zero behind it. -/
def Unmarked : Prop :=
  ∀ name ∈ source.fixtureNames, ∀ file ∈ (source.base name).files,
    Clean 0 [fixtureWord, fileWord] file.2

end GoldenSource

theorem RelativePath.ext {path other : RelativePath}
    (h : path.text = other.text) : path = other := by
  obtain ⟨text, _⟩ := path
  obtain ⟨text', _⟩ := other
  cases h
  rfl

theorem FixtureTree.ext {tree other : FixtureTree}
    (h : tree.files = other.files) : tree = other := by
  obtain ⟨files, _⟩ := tree
  obtain ⟨files', _⟩ := other
  cases h
  rfl

theorem RelativePath.zero_not_mem (path : RelativePath) :
    (0 : UInt8) ∉ utf8 path.text.toList := by
  apply zero_not_mem_utf8
  have hshape := path.shape
  simp only [isRelative, Bool.and_eq_true, Bool.not_eq_true',
    List.contains_eq_mem, decide_eq_false_iff_not] at hshape
  exact hshape.2

theorem RelativePath.encode_inj {path other : RelativePath}
    (h : utf8 path.text.toList = utf8 other.text.toList) : path = other :=
  RelativePath.ext (String.toList_injective (utf8_injective h))

theorem word_free : ∀ word ∈ [fixtureWord, fileWord], (0 : UInt8) ∉ word := by
  decide +kernel

theorem words_differ : fixtureWord ≠ fileWord := by
  decide +kernel

theorem opens_files (files : List (RelativePath × List UInt8))
    {rest : List UInt8} (hrest : Opens 0 rest) :
    Opens 0 (files.flatMap fileFrame ++ rest) := by
  cases files with
  | nil => exact hrest
  | cons file files => exact opens_cons _

theorem marked_files (files : List (RelativePath × List UInt8))
    {rest : List UInt8} (hrest : Marked 0 [fixtureWord] rest) :
    Marked 0 [fixtureWord, fileWord] (files.flatMap fileFrame ++ rest) := by
  cases files with
  | nil =>
      rcases hrest with rfl | ⟨word, hword, hmark⟩
      · exact Or.inl rfl
      · exact Or.inr ⟨word, List.mem_cons.mpr (Or.inl
          (List.mem_singleton.mp hword)), hmark⟩
  | cons file files =>
      refine Or.inr ⟨fileWord, by simp, ?_⟩
      simp only [List.flatMap_cons, fileFrame, List.append_assoc]
      exact List.prefix_append _ _

theorem file_not_marked {rest tail : List UInt8}
    (hrest : Marked 0 [fixtureWord] rest)
    (h : rest = mark 0 fileWord ++ tail) : False := by
  rcases hrest with rfl | ⟨word, hword, more, rfl⟩
  · cases h
  · cases List.mem_singleton.mp hword
    exact words_differ (mark_inj (word_free _ (by simp))
      (word_free _ (by simp)) h).1

theorem files_inj {files files' : List (RelativePath × List UInt8)}
    {rest rest' : List UInt8}
    (hclean : ∀ file ∈ files, Clean 0 [fixtureWord, fileWord] file.2)
    (hclean' : ∀ file ∈ files', Clean 0 [fixtureWord, fileWord] file.2)
    (hrest : Marked 0 [fixtureWord] rest)
    (hrest' : Marked 0 [fixtureWord] rest')
    (h : files.flatMap fileFrame ++ rest =
      files'.flatMap fileFrame ++ rest') : files = files' ∧ rest = rest' := by
  induction files generalizing files' with
  | nil =>
      cases files' with
      | nil => exact ⟨rfl, h⟩
      | cons file files' =>
          simp only [List.flatMap_cons, fileFrame, List.append_assoc] at h
          exact (file_not_marked hrest h).elim
  | cons file files ih =>
      cases files' with
      | nil =>
          simp only [List.flatMap_cons, fileFrame, List.append_assoc] at h
          exact (file_not_marked hrest' h.symm).elim
      | cons file' files' =>
          simp only [List.flatMap_cons, fileFrame, List.append_assoc] at h
          have hbody := List.append_cancel_left h
          obtain ⟨hpath, htail⟩ := field_inj file.1.zero_not_mem
            file'.1.zero_not_mem (opens_cons _) (opens_cons _) hbody
          obtain ⟨hcontent, hmore⟩ := content_inj word_free
            (hclean file List.mem_cons_self) (hclean' file' List.mem_cons_self)
            (marked_files files hrest) (marked_files files' hrest')
            (List.cons.inj htail).2
          have hsame : file = file' :=
            Prod.ext (RelativePath.encode_inj hpath) hcontent
          obtain ⟨hfiles, hrests⟩ := ih
            (fun other hother => hclean other (List.mem_cons_of_mem _ hother))
            (fun other hother => hclean' other (List.mem_cons_of_mem _ hother))
            hmore
          exact ⟨by rw [hsame, hfiles], hrests⟩

theorem marked_fixtures (base : RelativePath → FixtureTree)
    (names : List RelativePath) :
    Marked 0 [fixtureWord] (names.flatMap (fixtureFrame base)) := by
  cases names with
  | nil => exact Or.inl rfl
  | cons name names =>
      refine Or.inr ⟨fixtureWord, List.mem_singleton.mpr rfl, ?_⟩
      simp only [List.flatMap_cons, fixtureFrame, List.append_assoc]
      exact List.prefix_append _ _

theorem fixtures_inj {base base' : RelativePath → FixtureTree}
    {names names' : List RelativePath}
    (hclean : ∀ name ∈ names, ∀ file ∈ (base name).files,
      Clean 0 [fixtureWord, fileWord] file.2)
    (hclean' : ∀ name ∈ names', ∀ file ∈ (base' name).files,
      Clean 0 [fixtureWord, fileWord] file.2)
    (h : names.flatMap (fixtureFrame base) =
      names'.flatMap (fixtureFrame base')) :
    names = names' ∧ ∀ name ∈ names, base name = base' name := by
  induction names generalizing names' with
  | nil =>
      cases names' with
      | nil => exact ⟨rfl, fun name hname => nomatch hname⟩
      | cons name names' => cases h
  | cons name names ih =>
      cases names' with
      | nil => cases h
      | cons name' names' =>
          simp only [List.flatMap_cons, fixtureFrame, List.append_assoc] at h
          have hbody := List.append_cancel_left h
          have hrest := marked_fixtures base names
          have hrest' := marked_fixtures base' names'
          obtain ⟨hname, htail⟩ := field_inj name.zero_not_mem
            name'.zero_not_mem (opens_files _ hrest.opens)
            (opens_files _ hrest'.opens) hbody
          cases RelativePath.encode_inj hname
          obtain ⟨hfiles, hmore⟩ := files_inj
            (hclean name List.mem_cons_self) (hclean' name List.mem_cons_self)
            hrest hrest' htail
          obtain ⟨hnames, hbases⟩ := ih
            (fun other hother => hclean other (List.mem_cons_of_mem _ hother))
            (fun other hother => hclean' other (List.mem_cons_of_mem _ hother))
            hmore
          refine ⟨by rw [hnames], ?_⟩
          intro other hother
          rcases List.mem_cons.mp hother with rfl | hother
          · exact FixtureTree.ext hfiles
          · exact hbases other hother

theorem GoldenSource.encoded_inj {source other : GoldenSource}
    (hclean : source.Unmarked) (hclean' : other.Unmarked)
    (h : source.encoded = other.encoded) : source.Same other := by
  have hfree (data : Doc) : (0 : UInt8) ∉ utf8 (canonicalText data) :=
    zero_not_mem_utf8 (nul_not_mem_write false _)
  obtain ⟨hdata, hfixtures⟩ := field_inj (hfree source.data)
    (hfree other.data) (marked_fixtures source.base _).opens
    (marked_fixtures other.base _).opens h
  exact ⟨write_injective false (utf8_injective hdata),
    fixtures_inj hclean hclean' hfixtures⟩

/-- The second of two files written into the first, with its frame. -/
def mergedFile (file next : RelativePath × List UInt8) :
    RelativePath × List UInt8 :=
  (file.1, file.2 ++ fileFrame next)

theorem merged_frame (file next : RelativePath × List UInt8) :
    fileFrame (mergedFile file next) = fileFrame file ++ fileFrame next := by
  simp only [fileFrame, mergedFile, List.append_assoc]

def mergeFirst :
    List (RelativePath × List UInt8) → List (RelativePath × List UInt8)
  | file :: next :: rest => mergedFile file next :: rest
  | files => files

theorem mergeFirst_frames (files : List (RelativePath × List UInt8)) :
    (mergeFirst files).flatMap fileFrame = files.flatMap fileFrame := by
  unfold mergeFirst
  split
  · simp only [List.flatMap_cons, merged_frame, List.append_assoc]
  · rfl

theorem mergeFirst_ne {files : List (RelativePath × List UInt8)}
    (h : 1 < files.length) : mergeFirst files ≠ files := by
  unfold mergeFirst
  split
  · intro heq
    have hlength := congrArg List.length heq
    simp only [List.length_cons] at hlength
    omega
  · next hnone =>
      match files, h with
      | file :: next :: rest, _ => exact (hnone file next rest rfl).elim

theorem mergeFirst_sorted {files : List (RelativePath × List UInt8)}
    (h : files.Pairwise fun file other =>
      pathParts file.1.text < pathParts other.1.text) :
    (mergeFirst files).Pairwise fun file other =>
      pathParts file.1.text < pathParts other.1.text := by
  unfold mergeFirst
  split
  · obtain ⟨hfirst, htail⟩ := List.pairwise_cons.mp h
    refine List.pairwise_cons.mpr ⟨?_, (List.pairwise_cons.mp htail).2⟩
    intro other hother
    exact hfirst other (List.mem_cons_of_mem _ hother)
  · exact h

def FixtureTree.merged (tree : FixtureTree) : FixtureTree where
  files := mergeFirst tree.files
  sorted := mergeFirst_sorted tree.sorted

/-- The dataset over the merged tree of one fixture. -/
def GoldenSource.mergeIn (source : GoldenSource) (name : RelativePath) :
    GoldenSource :=
  { source with
    base := Function.update source.base name (source.base name).merged }

theorem GoldenSource.mergeIn_encoded (source : GoldenSource)
    (name : RelativePath) :
    (source.mergeIn name).encoded = source.encoded := by
  have hframe (other : RelativePath) :
      fixtureFrame (source.mergeIn name).base other =
        fixtureFrame source.base other := by
    by_cases hname : other = name
    · subst hname
      simp only [fixtureFrame, GoldenSource.mergeIn, Function.update_self,
        FixtureTree.merged, mergeFirst_frames]
    · simp only [fixtureFrame, GoldenSource.mergeIn,
        Function.update_of_ne hname]
  have hframes : fixtureFrame (source.mergeIn name).base =
      fixtureFrame source.base := funext hframe
  unfold GoldenSource.encoded
  rw [hframes]
  rfl

/-- The fingerprint identifies datasets without marks and with one file a
fixture. -/
theorem fingerprint_identifies (sha256 : List UInt8 → String)
    (hsha : Function.Injective sha256) :
    (∀ source other : GoldenSource, source.Unmarked → other.Unmarked →
      source.datasetFingerprint sha256 = other.datasetFingerprint sha256 →
      source.Same other) ∧
    ∀ source : GoldenSource, ∀ name ∈ source.fixtureNames,
      1 < (source.base name).files.length →
      ∃ other : GoldenSource,
        source.datasetFingerprint sha256 = other.datasetFingerprint sha256 ∧
          ¬ source.Same other := by
  constructor
  · intro source other hclean hclean' h
    exact GoldenSource.encoded_inj hclean hclean' (hsha h)
  · intro source name hname hfiles
    refine ⟨source.mergeIn name, ?_, ?_⟩
    · exact congrArg sha256 (source.mergeIn_encoded name).symm
    · rintro ⟨_, _, hbases⟩
      have hbase := hbases name hname
      simp only [GoldenSource.mergeIn, Function.update_self] at hbase
      exact mergeFirst_ne hfiles (congrArg FixtureTree.files hbase).symm

namespace GoldenWitness

def goldenCase : Doc :=
  .dict [("id", .str "c"), ("category", .str "edge"), ("fixture", .str "fx"),
    ("argv", .list [.str "true"])]

def number (text : List Char)
    (shape : (!text.isEmpty && text.all atomic) = true) : Doc :=
  .atom ⟨text, shape⟩

def data : Doc :=
  .dict [("schema_version", number ['1'] (by decide)),
    ("dataset_id", .str "d"), ("version", .str "1"),
    ("cases", .list [goldenCase])]

def reordered : Doc :=
  .dict [("cases", .list [goldenCase]), ("version", .str "1"),
    ("dataset_id", .str "d"), ("schema_version", number ['1'] (by decide))]

def fixture : RelativePath := ⟨"fx", by decide +kernel⟩

def first : RelativePath := ⟨"a.txt", by decide +kernel⟩

def second : RelativePath := ⟨"b.txt", by decide +kernel⟩

def twoFiles : FixtureTree where
  files := [(first, utf8 ['x']), (second, utf8 ['y'])]
  sorted := by decide +kernel

def oneFile : FixtureTree where
  files := [(first, utf8 "x\x00file\x00b.txt\x00y".toList)]
  sorted := by decide +kernel

def sourceOf (data : Doc) (tree : FixtureTree) : GoldenSource :=
  ⟨data, [⟨fixture⟩], fun _ => tree⟩

def digests : List (List Char × String) :=
  [(latin1 (sourceOf data twoFiles).encoded,
    "603f724cc16b47fe47f532e6ed488a644752e640e28c3a63fd7562a9b5348177")]

def sha256 (bytes : List UInt8) : String := knownDigest digests (latin1 bytes)

theorem sha256_injective : Function.Injective sha256 :=
  (knownDigest_injective (by decide +kernel)).comp latin1_injective

/-- Two datasets with different files and one fingerprint. -/
theorem one_file_for_two :
    Function.Injective sha256 ∧
      (sourceOf data twoFiles).datasetFingerprint sha256 =
        (sourceOf data oneFile).datasetFingerprint sha256 ∧
      ¬ (sourceOf data twoFiles).Same (sourceOf data oneFile) := by
  refine ⟨sha256_injective, congrArg sha256 (by decide +kernel), ?_⟩
  rintro ⟨_, _, hbase⟩
  have hfiles := congrArg FixtureTree.files
    (hbase fixture (by decide +kernel))
  revert hfiles
  decide +kernel

theorem unmarked (data : Doc) : (sourceOf data twoFiles).Unmarked := by
  intro name _
  change ∀ file ∈ twoFiles.files, Clean 0 [fixtureWord, fileWord] file.2
  decide +kernel

theorem reordered_identified :
    (sourceOf data twoFiles).Same (sourceOf reordered twoFiles) ∧
      ∃ other : GoldenSource,
        (sourceOf data twoFiles).datasetFingerprint sha256 =
            other.datasetFingerprint sha256 ∧
          ¬ (sourceOf data twoFiles).Same other :=
  have hidentifies := fingerprint_identifies sha256 sha256_injective
  ⟨hidentifies.1 _ _ (unmarked data) (unmarked reordered)
      (congrArg sha256 (by decide +kernel)),
    hidentifies.2 _ fixture (by decide +kernel) (by decide)⟩

end GoldenWitness

end Voly
