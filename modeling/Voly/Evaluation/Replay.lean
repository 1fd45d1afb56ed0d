/-
The replay of a golden case: the checks on streams and workspace, and the
verdict.
-/
import Voly.Python.Lines
import Voly.Python.Loops
import Voly.Python.Utf8
import Mathlib.Data.List.Infix

namespace Voly.Golden

open Python

/-- A Python text: code points, among which a lone half of a surrogate pair may
be. -/
abbrev PyStr := List UInt32

def pyStr (s : String) : PyStr := s.toList.map Char.val

/-- Texts that are decoded from bytes hold no surrogates. -/
def decoded (text : List Char) : PyStr := text.map Char.val

structure GoldenFileExpectation where
  path : PyStr
  present : Bool := true
  sha256 : PyStr := []
  contains : List PyStr := []

structure GoldenExpectation where
  exitCode : Int := 0
  stdoutContains : List PyStr := []
  stdoutNotContains : List PyStr := []
  stderrContains : List PyStr := []
  stderrNotContains : List PyStr := []
  files : List GoldenFileExpectation := []

structure GoldenCase where
  id : PyStr
  category : PyStr
  timeoutSeconds : Int := 60
  expected : GoldenExpectation

/-- What the path of an expected file leads to. -/
inductive Entry where
  /-- Not below the workspace. -/
  | outside (message : PyStr)
  /-- Looking it up, or asking what it is, raises. -/
  | raises (error : PyStr)
  /-- There is no regular file. -/
  | absent
  /-- A regular file, and the error where it may not be read. -/
  | file (data : List UInt8) (denied : Option PyStr)

inductive Ending where
  | launchError (error : PyStr)
  | timedOut (returnCode : Int)
  | exited (returnCode : Int)

/-- The ending, the bytes of both streams, the workspace. -/
structure Execution where
  ending : Ending
  stdout : List UInt8
  stderr : List UInt8
  workspace : PyStr → Entry

def maxOutputChars : Nat := 20000

def maxExpectedFileBytes : Nat := 1000000

def tail (data : List UInt8) (maxChars : Nat) : PyStr × Bool :=
  let size := data.length
  let kept := if maxChars * 4 < size then data.drop (size - maxChars * 4)
    else data
  let value := decoded (decodeUtf8 kept)
  (value.rtake maxChars, decide (maxChars < value.length ∨ maxChars * 4 < size))

structure Check where
  id : PyStr
  passed : Bool
  message : PyStr

/-- `needle in stream`. -/
def occursIn (stream needle : PyStr) : Bool := decide (needle <:+: stream)

def containsCheck (stream name : PyStr) (item : PyStr × Nat) : Check where
  id := name ++ pyStr s!":contains:{item.2}"
  passed := occursIn stream item.1
  message := pyStr (if occursIn stream item.1 then "expected fragment found"
    else "expected fragment missing")

def notContainsCheck (stream name : PyStr) (item : PyStr × Nat) : Check where
  id := name ++ pyStr s!":not_contains:{item.2}"
  passed := !occursIn stream item.1
  message := pyStr (if occursIn stream item.1 then "forbidden fragment found"
    else "forbidden fragment absent")

def textChecks (stream name : PyStr) (present absent : List PyStr) :
    List Check :=
  present.zipIdx.map (containsCheck stream name) ++
    absent.zipIdx.map (notContainsCheck stream name)

/-- `target.read_text(encoding="utf-8", errors="replace")`. -/
def readText (data : List UInt8) : PyStr :=
  decoded (universalNewlines (decodeUtf8 data))

section Replay

variable (sha256 : List UInt8 → PyStr)

/-- The digest and the fragments of a file that is there. -/
def contentCheck (id : PyStr) (data : List UInt8)
    (expected : GoldenFileExpectation) : Check :=
  if expected.sha256 ≠ [] ∧ sha256 data ≠ expected.sha256 then
    ⟨id, false, pyStr "SHA-256 mismatch"⟩
  else
    let missing := expected.contains.filter fun needle =>
      !occursIn (readText data) needle
    if missing ≠ [] then
      ⟨id, false,
        pyStr s!"missing {missing.length} expected content fragment(s)"⟩
    else ⟨id, true, pyStr "file expectation matched"⟩

def fileCheck (workspace : PyStr → Entry) (expected : GoldenFileExpectation) :
    Except PyStr Check :=
  let id := pyStr "file:" ++ expected.path
  match workspace expected.path with
  | .outside message => .ok ⟨id, false, message⟩
  | .raises error => .error error
  | .absent =>
      if expected.present then
        .ok ⟨id, false, pyStr "expected file to exist"⟩
      else .ok ⟨id, true, pyStr "file is absent"⟩
  | .file data denied =>
      if !expected.present then
        .ok ⟨id, false, pyStr "expected file to be absent"⟩
      else if maxExpectedFileBytes < data.length ∧ expected.contains ≠ [] then
        .ok ⟨id, false,
          pyStr s!"file exceeds {maxExpectedFileBytes} bytes for content checks"⟩
      else
        match denied with
        | none => .ok (contentCheck sha256 id data expected)
        | some error =>
            -- the file is not opened where nothing is asked of its content
            if expected.sha256 = [] ∧ expected.contains = [] then
              .ok ⟨id, true, pyStr "file expectation matched"⟩
            else .error error

def processCheck (case : GoldenCase) : Ending → Check
  | .launchError error => ⟨pyStr "process:launch", false, error⟩
  | .timedOut _ =>
      ⟨pyStr "process:timeout", false,
        pyStr s!"exceeded {case.timeoutSeconds}s"⟩
  | .exited returnCode =>
      ⟨pyStr "process:exit_code", returnCode == case.expected.exitCode,
        pyStr s!"expected {case.expected.exitCode}, got {returnCode}"⟩

structure GoldenResult where
  caseId : PyStr
  category : PyStr
  passed : Bool
  stdoutTail : PyStr
  stderrTail : PyStr
  stdoutTruncated : Bool
  stderrTruncated : Bool
  checks : List Check

def outputChecks (case : GoldenCase) (run : Execution) : List Check :=
  processCheck case run.ending ::
    (textChecks (tail run.stdout maxOutputChars).1 (pyStr "stdout")
        case.expected.stdoutContains case.expected.stdoutNotContains ++
      textChecks (tail run.stderr maxOutputChars).1 (pyStr "stderr")
        case.expected.stderrContains case.expected.stderrNotContains)

def runGoldenCase (case : GoldenCase) (run : Execution) :
    Except PyStr GoldenResult := do
  let stdout := tail run.stdout maxOutputChars
  let stderr := tail run.stderr maxOutputChars
  let files ← case.expected.files.mapM (fileCheck sha256 run.workspace)
  let checks := outputChecks case run ++ files
  return {
    caseId := case.id, category := case.category
    passed := !checks.isEmpty && checks.all Check.passed
    stdoutTail := stdout.1, stderrTail := stderr.1
    stdoutTruncated := stdout.2, stderrTruncated := stderr.2, checks }

/-- All that a stream says. -/
def fullText (data : List UInt8) : PyStr := decoded (decodeUtf8 data)

def StreamHolds (stream : PyStr) (present absent : List PyStr) : Prop :=
  (∀ needle ∈ present, needle <:+: stream) ∧
    ∀ needle ∈ absent, ¬ needle <:+: stream

/-- An expectation about a file, whatever its size. -/
def FileHolds (workspace : PyStr → Entry) (expected : GoldenFileExpectation) :
    Prop :=
  match workspace expected.path with
  | .outside _ | .raises _ => False
  | .absent => expected.present = false
  | .file data _ => expected.present = true ∧
      (expected.sha256 ≠ [] → sha256 data = expected.sha256) ∧
      ∀ needle ∈ expected.contains, needle <:+: readText data

/-- The process ended in time with its code, streams and files as expected. -/
structure Sound (case : GoldenCase) (run : Execution) : Prop where
  exit : run.ending = .exited case.expected.exitCode
  stdout : StreamHolds (fullText run.stdout) case.expected.stdoutContains
    case.expected.stdoutNotContains
  stderr : StreamHolds (fullText run.stderr) case.expected.stderrContains
    case.expected.stderrNotContains
  files : ∀ expected ∈ case.expected.files,
    FileHolds sha256 run.workspace expected

def ReportedPassed (case : GoldenCase) (run : Execution) : Prop :=
  ∃ result, runGoldenCase sha256 case run = .ok result ∧ result.passed = true

/-- A forbidden fragment is in one of the two streams, as they are kept. -/
def Spoken (keep : PyStr → PyStr) (case : GoldenCase) (run : Execution) :
    Prop :=
  (∃ needle ∈ case.expected.stdoutNotContains,
      needle <:+: keep (fullText run.stdout)) ∨
    ∃ needle ∈ case.expected.stderrNotContains,
      needle <:+: keep (fullText run.stderr)

/-- The other checks: the process, the required fragments, and the files. -/
structure OthersPass (case : GoldenCase) (run : Execution) : Prop where
  exit : run.ending = .exited case.expected.exitCode
  stdout : ∀ needle ∈ case.expected.stdoutContains,
    needle <:+: (fullText run.stdout).rtake maxOutputChars
  stderr : ∀ needle ∈ case.expected.stderrContains,
    needle <:+: (fullText run.stderr).rtake maxOutputChars
  files : ∀ expected ∈ case.expected.files, ∃ check,
    fileCheck sha256 run.workspace expected = .ok check ∧ check.passed = true

theorem decoded_rtake (text : List Char) (n : Nat) :
    decoded (text.rtake n) = (decoded text).rtake n := by
  rw [decoded, decoded, List.rtake, List.rtake, List.map_drop, List.length_map]

theorem tail_eq (data : List UInt8) (maxChars : Nat) :
    (tail data maxChars).1 = (fullText data).rtake maxChars := by
  unfold tail fullText
  dsimp only
  split
  · next hlong =>
      have hkept : 4 * maxChars ≤
          (data.drop (data.length - maxChars * 4)).length := by
        rw [List.length_drop]
        omega
      rw [← decoded_rtake, ← decoded_rtake, ← rtake_decodeUtf8 maxChars
        (data.take (data.length - maxChars * 4)) _ hkept,
        List.take_append_drop]
  · rfl

theorem rtake_within (stream : PyStr) (n : Nat) : stream.rtake n <:+: stream :=
  (List.drop_suffix _ _).isInfix

theorem forall_mem_zipIdx {α : Type} {items : List α} {good : α → Prop} :
    (∀ item ∈ items.zipIdx, good item.1) ↔ ∀ item ∈ items, good item := by
  have hitems : items = items.zipIdx.map Prod.fst := by simp
  conv_rhs => rw [hitems]
  rw [List.forall_mem_map]

theorem textChecks_passed (stream name : PyStr) (present absent : List PyStr) :
    (∀ check ∈ textChecks stream name present absent, check.passed = true) ↔
      StreamHolds stream present absent := by
  rw [textChecks, List.forall_mem_append, List.forall_mem_map,
    List.forall_mem_map, StreamHolds]
  refine and_congr (Iff.trans ?_ forall_mem_zipIdx)
    (Iff.trans ?_ forall_mem_zipIdx)
  · simp [containsCheck, occursIn]
  · simp [notContainsCheck, occursIn]

theorem processCheck_passed (case : GoldenCase) (ending : Ending) :
    (processCheck case ending).passed = true ↔
      ending = .exited case.expected.exitCode := by
  cases ending with
  | launchError error => simp [processCheck]
  | timedOut returnCode => simp [processCheck]
  | exited returnCode => simp [processCheck]

theorem contentCheck_passed (id : PyStr) (data : List UInt8)
    (expected : GoldenFileExpectation) :
    (contentCheck sha256 id data expected).passed = true ↔
      (expected.sha256 ≠ [] → sha256 data = expected.sha256) ∧
        ∀ needle ∈ expected.contains, needle <:+: readText data := by
  unfold contentCheck
  split
  · next hdigest =>
      exact ⟨fun h => (nomatch h), fun h => (hdigest.2 (h.1 hdigest.1)).elim⟩
  · next hdigest =>
      have hsame : expected.sha256 ≠ [] → sha256 data = expected.sha256 :=
        fun hset => not_not.mp fun hne => hdigest ⟨hset, hne⟩
      have hmissing : expected.contains.filter
          (fun needle => !occursIn (readText data) needle) = [] ↔
            ∀ needle ∈ expected.contains, needle <:+: readText data := by
        simp [List.filter_eq_nil_iff, occursIn]
      rw [← hmissing]
      dsimp only
      split
      · next hsome => exact ⟨fun h => (nomatch h), fun h => (hsome h.2).elim⟩
      · next hnone => exact ⟨fun _ => ⟨hsame, not_not.mp hnone⟩, fun _ => rfl⟩

theorem fileCheck_sound {workspace : PyStr → Entry}
    {expected : GoldenFileExpectation} {check : Check}
    (hcheck : fileCheck sha256 workspace expected = .ok check)
    (hpassed : check.passed = true) : FileHolds sha256 workspace expected := by
  unfold fileCheck at hcheck
  unfold FileHolds
  dsimp only at hcheck
  cases hentry : workspace expected.path with
  | outside message =>
      rw [hentry] at hcheck
      cases hcheck
      cases hpassed
  | raises error =>
      rw [hentry] at hcheck
      cases hcheck
  | absent =>
      rw [hentry] at hcheck
      cases hpresent : expected.present with
      | true =>
          simp only [hpresent, if_true] at hcheck
          cases hcheck
          cases hpassed
      | false => rfl
  | file data denied =>
      rw [hentry] at hcheck
      cases hpresent : expected.present with
      | false =>
          simp only [hpresent, Bool.not_false, if_true] at hcheck
          cases hcheck
          cases hpassed
      | true =>
          simp only [hpresent, Bool.not_true, Bool.false_eq_true,
            if_false] at hcheck
          refine ⟨rfl, ?_⟩
          split at hcheck
          · cases hcheck
            cases hpassed
          · cases denied with
            | none =>
                cases hcheck
                exact (contentCheck_passed sha256 _ data expected).mp hpassed
            | some error =>
                dsimp only at hcheck
                split at hcheck
                · next hnothing =>
                    refine ⟨fun hset => (hset hnothing.1).elim, ?_⟩
                    rw [hnothing.2]
                    exact List.forall_mem_nil _
                · cases hcheck

theorem outputChecks_passed (case : GoldenCase) (run : Execution) :
    (∀ check ∈ outputChecks case run, check.passed = true) ↔
      run.ending = .exited case.expected.exitCode ∧
        StreamHolds ((fullText run.stdout).rtake maxOutputChars)
          case.expected.stdoutContains case.expected.stdoutNotContains ∧
        StreamHolds ((fullText run.stderr).rtake maxOutputChars)
          case.expected.stderrContains case.expected.stderrNotContains := by
  rw [outputChecks, List.forall_mem_cons, List.forall_mem_append,
    processCheck_passed, textChecks_passed, textChecks_passed, tail_eq, tail_eq]

theorem reportedPassed_iff (case : GoldenCase) (run : Execution) :
    ReportedPassed sha256 case run ↔ OthersPass sha256 case run ∧
      ¬ Spoken (·.rtake maxOutputChars) case run := by
  have hresult : ReportedPassed sha256 case run ↔
      (∀ check ∈ outputChecks case run, check.passed = true) ∧
        ∃ files, case.expected.files.mapM (fileCheck sha256 run.workspace) =
          .ok files ∧ ∀ check ∈ files, check.passed = true := by
    constructor
    · rintro ⟨result, hrun, hpassed⟩
      obtain ⟨files, hfiles, hreturn⟩ := ok_of_bind hrun
      cases hreturn
      rw [Bool.and_eq_true, List.all_eq_true, List.forall_mem_append] at hpassed
      exact ⟨hpassed.2.1, files, hfiles, hpassed.2.2⟩
    · rintro ⟨houtput, files, hfiles, hpassed⟩
      have hall : ∀ check ∈ outputChecks case run ++ files,
          check.passed = true := List.forall_mem_append.mpr ⟨houtput, hpassed⟩
      refine ⟨_, by rw [runGoldenCase, hfiles]; rfl, ?_⟩
      rw [Bool.and_eq_true, List.all_eq_true]
      exact ⟨rfl, hall⟩
  rw [hresult, exists_mapM_forall_iff, outputChecks_passed]
  constructor
  · rintro ⟨⟨hexit, hstdout, hstderr⟩, hfiles⟩
    refine ⟨⟨hexit, hstdout.1, hstderr.1, hfiles⟩, ?_⟩
    rintro (⟨needle, hneedle, hin⟩ | ⟨needle, hneedle, hin⟩)
    · exact hstdout.2 needle hneedle hin
    · exact hstderr.2 needle hneedle hin
  · rintro ⟨hothers, hsilent⟩
    refine ⟨⟨hothers.exit, ⟨hothers.stdout, ?_⟩, hothers.stderr, ?_⟩,
      hothers.files⟩
    · exact fun needle hneedle hin => hsilent (.inl ⟨needle, hneedle, hin⟩)
    · exact fun needle hneedle hin => hsilent (.inr ⟨needle, hneedle, hin⟩)

/-- A passed case is as expected iff a forbidden fragment of a stream would be
in its last 20000 characters. -/
theorem passed_sound_iff (case : GoldenCase) (run : Execution) :
    (ReportedPassed sha256 case run → Sound sha256 case run) ↔
      (OthersPass sha256 case run → Spoken id case run →
        Spoken (·.rtake maxOutputChars) case run) := by
  rw [reportedPassed_iff]
  constructor
  · intro hsound hothers hspoken
    by_contra hsilent
    have hholds := hsound ⟨hothers, hsilent⟩
    rcases hspoken with ⟨needle, hneedle, hin⟩ | ⟨needle, hneedle, hin⟩
    · exact hholds.stdout.2 needle hneedle hin
    · exact hholds.stderr.2 needle hneedle hin
  · rintro hshown ⟨hothers, hsilent⟩
    have hnone : ¬ Spoken id case run :=
      fun hspoken => hsilent (hshown hothers hspoken)
    refine ⟨hothers.exit, ⟨?_, ?_⟩, ⟨?_, ?_⟩, ?_⟩
    · intro needle hneedle
      exact (hothers.stdout needle hneedle).trans (rtake_within _ _)
    · intro needle hneedle hin
      exact hnone (.inl ⟨needle, hneedle, hin⟩)
    · intro needle hneedle
      exact (hothers.stderr needle hneedle).trans (rtake_within _ _)
    · intro needle hneedle hin
      exact hnone (.inr ⟨needle, hneedle, hin⟩)
    · intro expected hexpected
      obtain ⟨check, hcheck, hpassed⟩ := hothers.files expected hexpected
      exact fileCheck_sound sha256 hcheck hpassed

end Replay

namespace ReplayWitness

def secret : PyStr := pyStr "SECRET"

def case : GoldenCase where
  id := pyStr "no-secret"
  category := pyStr "adversarial"
  expected := { stdoutNotContains := [secret] }

def run : Execution where
  ending := .exited 0
  stdout := [83, 69, 67, 82, 69, 84] ++ List.replicate 20000 120
  stderr := []
  workspace := fun _ => .absent

def sha256 (_ : List UInt8) : PyStr := []

theorem fullText_stdout :
    fullText run.stdout = secret ++ List.replicate 20000 120 := by
  have hword : ∀ b ∈ ([83, 69, 67, 82, 69, 84] : List UInt8),
      b.toNat < 0x80 := by
    simp
  have hletter : ∀ b ∈ List.replicate 20000 (120 : UInt8), b.toNat < 0x80 := by
    intro b hb
    rw [List.eq_of_mem_replicate hb]
    decide
  have hascii : ∀ b ∈ run.stdout, b.toNat < 0x80 :=
    List.forall_mem_append.mpr ⟨hword, hletter⟩
  rw [fullText, Utf8State.decode_ascii hascii, run, List.map_append,
    List.map_replicate, decoded, List.map_append, List.map_replicate]
  rfl

/-- The word is in the output, and the case is reported as passed. -/
theorem forbidden_word_passed :
    ReportedPassed sha256 case run ∧ secret <:+: fullText run.stdout ∧
      ¬ Sound sha256 case run := by
  have hin : secret <:+: fullText run.stdout := by
    rw [fullText_stdout]
    exact (List.prefix_append _ _).isInfix
  refine ⟨(reportedPassed_iff _ _ _).mpr ⟨⟨rfl, ?_, ?_, ?_⟩, ?_⟩, hin, ?_⟩
  · exact List.forall_mem_nil _
  · exact List.forall_mem_nil _
  · exact List.forall_mem_nil _
  · rintro (⟨needle, hneedle, htail⟩ | ⟨needle, hneedle, _⟩)
    · cases List.mem_singleton.mp hneedle
      have hkept : (secret ++ List.replicate 20000 (120 : UInt32)).rtake
          maxOutputChars = List.replicate 20000 120 := by
        have hlength : maxOutputChars =
            (List.replicate 20000 (120 : UInt32)).length :=
          (List.length_replicate ..).symm
        rw [rtake_append _ hlength.le, List.rtake, hlength, Nat.sub_self,
          List.drop_zero]
      dsimp only at htail
      rw [fullText_stdout, hkept] at htail
      have hletter : 'S'.val ∈ List.replicate 20000 (120 : UInt32) :=
        htail.subset (by decide +kernel)
      exact absurd (List.eq_of_mem_replicate hletter) (by decide)
    · cases hneedle
  · intro hsound
    exact hsound.stdout.2 secret (List.mem_singleton.mpr rfl) hin

end ReplayWitness

end Voly.Golden
