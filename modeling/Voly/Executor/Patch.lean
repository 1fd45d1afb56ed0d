/-
The local patch applier: file blocks and unified diffs in a model's answer, the
path check, and the writes.
-/
import Mathlib.Data.Nat.Digits.Defs
import Voly.Python.Lines
import Voly.Regex.Scan

namespace Voly.Patch

open Python Scan

def notFeed (c : Char) : Bool := c ≠ '\n'

/-- Letters alike for `re.IGNORECASE`; only `i` has companions outside ASCII. -/
def sameLetter (a c : Char) : Bool :=
  a.toLower == c.toLower ||
    (a.toLower == 'i' && (c == Char.ofNat 0x130 || c == Char.ofNat 0x131))

/-- `\*{1,2}`. -/
def stars {R : Type} (k : Pattern R) : Pattern R :=
  lit ['*'] fun s => upTo (· == '*') k 1 s

/-- `\s*(.+?)\s*$`. -/
def headerName : Pattern (List Char × List Char) :=
  many isSpace <| lazy1 notFeed fun name =>
    many isSpace <| lineEnd fun rest => some (name, rest)

/-- `#{1,4}\s+FILE:\s*`, and the name. -/
def hashHeader : Pattern (List Char × List Char) :=
  lit ['#'] fun s =>
    upTo (· == '#')
      (some1 isSpace <| litBy sameLetter "FILE:".toList <|
        many isSpace headerName) 3 s

/-- `(?:\*{1,2})?File:\s*(?:\*{1,2})?`, and the name. -/
def starHeader : Pattern (List Char × List Char) :=
  opt stars <| litBy sameLetter "File:".toList <| many isSpace <|
    opt stars headerName

/-- `_FILE_HEADER`, at the beginning of a line. -/
def fileHeader : Pattern (List Char × List Char) :=
  fun s => hashHeader s <|> starHeader s

def backticks : List Char := "```".toList

def codeFence : Pattern (List Char) :=
  lit backticks <| many notFeed <| lit ['\n'] <|
    lazyFrom (fun _ => true) (fun content => lit backticks fun _ =>
      some content) []

/-- `^---\s+a/(.+)$` and `^\+\+\+\s+b/(.+)$`. -/
def diffName (mark side : String) : Pattern (List Char) :=
  lit mark.toList <| some1 isSpace <| lit side.toList <|
    group1 notFeed fun name => lineEnd fun _ => some name

def diffHeader : Pattern (List Char) := diffName "---" "a/"

def diffPlus : Pattern (List Char) := diffName "+++" "b/"

/-- `(?:,\d+)?`. -/
def sizePart {R : Type} : Pattern R → Pattern R :=
  opt fun k => lit [','] (some1 Char.isDigit k)

/-- `\s*-(\d+)(?:,\d+)?\s+\+(\d+)(?:,\d+)?\s*@@`; the first number. -/
def hunkHeader : Pattern Nat :=
  many isSpace <| lit ['-'] <| group1 Char.isDigit fun start =>
    sizePart <| some1 isSpace <| lit ['+'] <| group1 Char.isDigit fun _ =>
      sizePart <| many isSpace <| lit "@@".toList fun _ =>
        some (Nat.ofDigitChars 10 start 0)

/-- `str.strip()`. -/
def stripped (s : List Char) : List Char :=
  (s.dropWhile isSpace).rdropWhile isSpace

def extractFileBlocks (text : List Char) : List (List Char × List Char) :=
  (split fileHeader text).2.filterMap fun part =>
    (search codeFence part.2).map fun content => (stripped part.1, content)

def marker (mark : String) : Pattern (Unit × List Char) :=
  lit mark.toList fun rest => some ((), rest)

def piecesAfter (mark : String) (text : List Char) : List (List Char) :=
  (split (marker mark) text).2.map Prod.snd

/-- The lines of a hunk that begin with a mark, as lines of the file. -/
def marked (mark : Char) (lines : List (List Char)) : List (List Char) :=
  lines.filterMap fun
    | [] => none
    | c :: line => if c = mark then some (line ++ ['\n']) else none

/-- The lines of the file and the offset, after one more hunk. -/
def applyHunk (state : List (List Char) × Int) (hunk : List Char) :
    List (List Char) × Int :=
  match hunkHeader hunk with
  | none => state
  | some start =>
      let srcStart := (start : Int) - 1 + state.2
      let hunkLines := (hunk.splitOn '\n').tail
      let removes := marked '-' hunkLines
      let adds := marked '+' hunkLines
      (assignSlice state.1 srcStart (srcStart + removes.length) adds,
        state.2 + adds.length - removes.length)

/-- `_apply_diff_section` on the lines of the file. -/
def patchLines (original : List (List Char)) (diffText : List Char) :
    Option (List Char) :=
  let lines := ((piecesAfter "@@" diffText).foldl applyHunk (original, 0)).1
  if lines = [] then none else some lines.flatten

/-- What `read_text` does. -/
inductive Reading where
  | text (content : List Char)
  | missing
  | raises (error : List Char)

/-- The file system from the working directory on; a write that raises may
have left something behind. -/
structure Disk (S : Type) where
  cwd : List Char
  realpath : S → List Char → List Char
  read : S → List Char → Reading
  isPresent : S → List Char → Bool
  makedirs : S → List Char → S × Option (List Char)
  write : S → List Char → List Char → S × Option (List Char)

/-- `os.path.join` with a path that has no slash in front. -/
def joinPath (base rel : List Char) : List Char :=
  if base.getLast? = some '/' then base ++ rel else base ++ '/' :: rel

def dirname (path : List Char) : List Char :=
  let head := path.rdropWhile (· ≠ '/')
  if head.all (· == '/') then head else head.rdropWhile (· == '/')

/-- `rel_path.lstrip("/")`. -/
def relative (path : List Char) : List Char := path.dropWhile (· == '/')

section Applier

variable {S : Type} (disk : Disk S)

def resolveSafePath (s : S) (relPath : List Char) :
    Except (List Char) (List Char) :=
  let rel := relative relPath
  let full := disk.realpath s (joinPath disk.cwd rel)
  if ¬ disk.cwd ++ ['/'] <+: full ∧ full ≠ disk.cwd then
    .error ("path escape attempt: ".toList ++ rel)
  else .ok full

/-- `_apply_diff_section`; other errors of the read than a missing file are
raised. -/
def applyDiffSection (s : S) (relPath diffText : List Char) :
    Except (List Char) (Option (List Char)) :=
  match resolveSafePath disk s relPath with
  | .error _ => .ok none
  | .ok full =>
      match disk.read s full with
      | .raises error => .error error
      | .missing => .ok (patchLines [] diffText)
      | .text content =>
          .ok (patchLines (keepLines (universalNewlines content)) diffText)

def sectionBlock (s : S) (diffText : List Char) :
    Except (List Char) (List (List Char × List Char)) :=
  match searchLines diffHeader true diffText,
      searchLines diffPlus true diffText with
  | some _, some plus => do
      let relPath := stripped plus
      let patched ← applyDiffSection disk s relPath diffText
      pure (patched.toList.map fun content => (relPath, content))
  | _, _ => pure []

def extractDiffBlocks (s : S) (text : List Char) :
    Except (List Char) (List (List Char × List Char)) := do
  let blocks ← (piecesAfter "diff --git" text).mapM (sectionBlock disk s)
  pure blocks.flatten

/-- The spaces and tabs in front of a line. -/
def indentOf (line : List Char) : List Char :=
  line.takeWhile fun c => c == ' ' || c == '\t'

/-- The longest beginning that two texts share. -/
def commonStart : List Char → List Char → List Char
  | a :: u, b :: v => if a = b then a :: commonStart u v else []
  | _, _ => []

/-- `textwrap.dedent`: blank lines emptied, the common indentation taken off. -/
def dedent (text : List Char) : List Char :=
  let lines := (text.splitOn '\n').map fun line =>
    if indentOf line = line then [] else line
  let margin :=
    match (lines.filter (· ≠ [])).map indentOf with
    | [] => []
    | first :: others => others.foldl commonStart first
  ['\n'].intercalate (lines.map (·.drop margin.length))

def written (content : List Char) : List Char :=
  let text := dedent content
  if text.getLast? = some '\n' then text else text ++ ['\n']

structure AppliedFile where
  path : List Char
  created : Bool
deriving DecidableEq

structure PatchResult where
  applied : List AppliedFile := []
  skipped : List (List Char) := []
  errors : List (List Char) := []
deriving DecidableEq

/-- `_write`: the state it leaves, and the entry or the error. -/
def writeBlock (s : S) (relPath content : List Char) :
    S × Except (List Char) AppliedFile :=
  let rel := relative relPath
  match resolveSafePath disk s rel with
  | .error error => (s, .error error)
  | .ok full =>
      let present := disk.isPresent s full
      match disk.makedirs s (dirname full) with
      | (s, some error) => (s, .error error)
      | (s, none) =>
          match disk.write s full (written content) with
          | (s, some error) => (s, .error error)
          | (s, none) => (s, .ok ⟨rel, !present⟩)

/-- One block of `apply`; what is raised becomes an error of the result. -/
def applyBlock (state : S × PatchResult) (block : List Char × List Char) :
    S × PatchResult :=
  let (s, outcome) := writeBlock disk state.1 block.1 block.2
  match outcome with
  | .error error =>
      (s, { state.2 with errors :=
        state.2.errors ++ [block.1 ++ ": ".toList ++ error] })
  | .ok file => (s, { state.2 with applied := state.2.applied ++ [file] })

/-- The blocks that `apply` works on. -/
def extractBlocks (s : S) (response : List Char) :
    Except (List Char) (List (List Char × List Char)) :=
  if extractFileBlocks response = [] then extractDiffBlocks disk s response
  else .ok (extractFileBlocks response)

def apply (s : S) (response : List Char) :
    Except (List Char) (S × PatchResult) := do
  let blocks ← extractBlocks disk s response
  if blocks = [] then
    pure (s, { skipped :=
      ["no FILE blocks or diffs found in response".toList] })
  else pure (blocks.foldl (applyBlock disk) (s, {}))

/-- No write fails. -/
def Disk.Works {S : Type} (disk : Disk S) : Prop :=
  ∀ s path content, (disk.makedirs s path).2 = none ∧
    (disk.write s path content).2 = none

theorem relative_relative (p : List Char) :
    relative (relative p) = relative p := by
  unfold relative
  induction p with
  | nil => rfl
  | cons c p ih =>
      by_cases hc : c = '/'
      · simp [hc, ih]
      · simp [hc]

theorem resolveSafePath_relative (s : S) (p : List Char) :
    resolveSafePath disk s (relative p) = resolveSafePath disk s p := by
  simp only [resolveSafePath, relative_relative]

theorem applyBlock_works {disk : Disk S} (hworks : disk.Works) {s : S}
    {path full : List Char} (hfull : resolveSafePath disk s path = .ok full)
    (content : List Char) (result : PatchResult) :
    ∃ made saved, disk.makedirs s (dirname full) = (made, none) ∧
      disk.write made full (written content) = (saved, none) ∧
      applyBlock disk (s, result) (path, content) =
        (saved, { result with applied := result.applied ++
          [⟨relative path, !disk.isPresent s full⟩] }) := by
  have hmakedirs := (hworks s (dirname full) content).1
  cases hmade : disk.makedirs s (dirname full) with
  | mk made raised =>
  rw [hmade] at hmakedirs
  have hwrite := (hworks made full (written content)).2
  cases hsaved : disk.write made full (written content) with
  | mk saved failed =>
  rw [hsaved] at hwrite
  cases hmakedirs
  cases hwrite
  refine ⟨made, saved, rfl, hsaved, ?_⟩
  simp only [applyBlock, writeBlock, resolveSafePath_relative, hfull, hmade,
    hsaved]

end Applier

/-- Files by their paths, below a directory without links. -/
def memory : Disk (List (List Char × List Char)) where
  cwd := ['/', 'w']
  realpath _ path := path
  read files path :=
    match files.lookup path with
    | some content => .text content
    | none => .missing
  isPresent files path := (files.lookup path).isSome
  makedirs files _ := (files, none)
  write files path content := ((path, content) :: files, none)

end Voly.Patch
