/-
A pytest command that is scoped to test files: from a string to words, to a
string, and to words again.
-/
import Voly.Files.Links
import Voly.Python.Text

namespace Voly

open Python

/-- The states of `shlex` in its POSIX mode, split at whitespace only. -/
inductive LexState where
  | blank | word | single | double | escape | escapeDouble

def shlexSpace (c : Char) : Bool := c ∈ [' ', '\t', '\r', '\n']

def lexWords : LexState → List Char → List Char →
    Except String (List (List Char))
  | .blank, _, [] => .ok []
  | .blank, word, c :: rest =>
      if shlexSpace c then lexWords .blank word rest
      else if c = '\\' then lexWords .escape [] rest
      else if c = '\'' then lexWords .single [] rest
      else if c = '"' then lexWords .double [] rest
      else lexWords .word [c] rest
  | .word, word, [] => .ok [word]
  | .word, word, c :: rest =>
      if shlexSpace c then (lexWords .blank [] rest).map (word :: ·)
      else if c = '\\' then lexWords .escape word rest
      else if c = '\'' then lexWords .single word rest
      else if c = '"' then lexWords .double word rest
      else lexWords .word (word ++ [c]) rest
  | .single, _, [] | .double, _, [] => .error "No closing quotation"
  | .single, word, c :: rest =>
      if c = '\'' then lexWords .word word rest
      else lexWords .single (word ++ [c]) rest
  | .double, word, c :: rest =>
      if c = '"' then lexWords .word word rest
      else if c = '\\' then lexWords .escapeDouble word rest
      else lexWords .double (word ++ [c]) rest
  | .escape, _, [] | .escapeDouble, _, [] => .error "No escaped character"
  | .escape, word, c :: rest => lexWords .word (word ++ [c]) rest
  | .escapeDouble, word, c :: rest =>
      if c = '\\' ∨ c = '"' then lexWords .double (word ++ [c]) rest
      else lexWords .double (word ++ ['\\', c]) rest

/-- `shlex.split`. -/
def shlexSplit (text : String) : Except String (List String) :=
  (lexWords .blank [] text.toList).map (·.map String.ofList)

def joinWords (words : List String) : String :=
  String.ofList ([' '].intercalate (words.map String.toList))

def isPytestCommand (command : String) : Bool :=
  match shlexSplit command with
  | .ok (first :: _) => lower ((Files.parts first).getLast?.getD "") = "pytest"
  | _ => false

def slashed (f : String) : List Char :=
  f.toList.map fun c => if c = '\\' then '/' else c

/-- `_TEST_FILE_RE.search`: `$` also before a last line feed; a long s is an s.
-/
def isTestFile (f : List Char) : Bool :=
  let last := (f.splitOn '/').getLast?.getD []
  let name := (if last.getLast? = some '\n' then last.dropLast else last).map
    fun c => if c = 'ſ' then 's' else c.toLower
  8 < name.length &&
    (("test_".toList.isPrefixOf name && ".py".toList.isSuffixOf name) ||
      "_test.py".toList.isSuffixOf name)

/-- The test files among the touched ones, each once and in order. -/
def touchedTests (filesTouched : List String) : List String :=
  sorted ((filesTouched.filter fun f =>
    f ≠ "" && !startsWith f ".voly/" && isTestFile (slashed f)).map
      fun f => String.ofList (slashed f)).dedup

def scopePytestCommand (command : String) (filesTouched : List String) :
    String :=
  if isPytestCommand command then
    match shlexSplit command with
    | .ok words =>
        let tests := touchedTests filesTouched
        if (∃ word ∈ words.tail, ¬ startsWith word "-") ∨ tests = [] then
          command
        else joinWords (words ++ tests.take 24)
    | .error _ => command
  else command

/-- The argument vector that `_check_command` executes. -/
def commandArgv (run : String) (scopePytestToFiles : Bool)
    (filesTouched : List String) : Except String (List String) :=
  let raw := strip run
  shlexSplit
    (if scopePytestToFiles then scopePytestCommand raw filesTouched else raw)

/-- A `pytest` command with these words, none a path, and touched test files. -/
structure Scoped (command : String) (filesTouched words : List String) :
    Prop where
  pytest : isPytestCommand command = true
  split : shlexSplit command = .ok words
  bare : ∀ word ∈ words.tail, startsWith word "-" = true
  touched : touchedTests filesTouched ≠ []

def shlexMark (c : Char) : Bool := shlexSpace c || c ∈ ['\\', '\'', '"']

def PlainWord (word : List Char) : Prop :=
  word ≠ [] ∧ ∀ c ∈ word, shlexMark c = false

/-- The length of the words, each with the blank behind it. -/
def wordsSize (words : List (List Char)) : Nat :=
  (words.map fun word => word.length + 1).sum

theorem intercalate_size {words : List (List Char)} (h : words ≠ []) :
    ([' '].intercalate words).length + 1 = wordsSize words := by
  induction words with
  | nil => exact absurd rfl h
  | cons word rest ih =>
      cases rest with
      | nil => simp [wordsSize]
      | cons next rest =>
          have hrest := ih (List.cons_ne_nil next rest)
          simp only [wordsSize, List.map_cons, List.sum_cons,
            List.intercalate_cons_cons, List.length_append] at hrest ⊢
          simp only [List.length_singleton]
          omega

/-- How long the words from a state on can be. -/
def LexState.room (word rest : List Char) : LexState → Nat
  | .blank => rest.length + 1
  | .single | .double => word.length + rest.length
  | .word | .escape | .escapeDouble => word.length + rest.length + 1

/-- The states in which no mark is lost yet. -/
def LexState.Clear (word : List Char) : LexState → Prop
  | .blank => True
  | .word => PlainWord word
  | _ => False

theorem lexWords_size {state : LexState} {word rest : List Char}
    {out : List (List Char)} (h : lexWords state word rest = .ok out) :
    wordsSize out ≤ state.room word rest ∧
      (state.Clear word → wordsSize out = state.room word rest →
        ∀ found ∈ out, PlainWord found) := by
  have hlost {size bound : Nat} {clear plain : Prop} (hlt : size < bound) :
      size ≤ bound ∧ (clear → size = bound → plain) :=
    ⟨hlt.le, fun _ heq => absurd heq hlt.ne⟩
  have hsnoc {word : List Char} {c : Char}
      (hword : ∀ c ∈ word, shlexMark c = false) (hspace : ¬ shlexSpace c = true)
      (hslash : c ≠ '\\') (hsingle : c ≠ '\'') (hdouble : c ≠ '"') :
      PlainWord (word ++ [c]) := by
    refine ⟨by simp, List.forall_mem_append.mpr ⟨hword, ?_⟩⟩
    simp [shlexMark, hspace, hslash, hsingle, hdouble]
  fun_induction lexWords state word rest generalizing out with
  | case1 =>
      cases h
      exact hlost (Nat.succ_pos _)
  | case2 | case3 | case4 | case5 | case9 | case10 | case11 =>
      rename_i ih
      have hle := (ih h).1
      simp only [LexState.room, List.length_cons, List.length_nil] at hle ⊢
      exact hlost (by omega)
  | case6 word c rest hspace hslash hsingle hdouble ih =>
      obtain ⟨hle, hplain⟩ := ih h
      have hsame : LexState.room [c] rest .word =
          LexState.room word (c :: rest) .blank := by
        simp [LexState.room, Nat.add_comm]
      rw [hsame] at hle hplain
      exact ⟨hle, fun _ =>
        hplain (hsnoc (List.forall_mem_nil _) hspace hslash hsingle hdouble)⟩
  | case7 word =>
      cases h
      refine ⟨by simp [wordsSize, LexState.room], fun hclear _ => ?_⟩
      exact List.forall_mem_singleton.mpr hclear
  | case8 word c rest _ ih =>
      cases hrest : lexWords .blank [] rest with
      | error e =>
          rw [hrest] at h
          cases h
      | ok others =>
          rw [hrest] at h
          cases h
          obtain ⟨hle, hplain⟩ := ih hrest
          simp only [wordsSize, List.map_cons, List.sum_cons, LexState.room,
            List.length_cons] at hle hplain ⊢
          refine ⟨by omega, fun hclear heq => ?_⟩
          exact List.forall_mem_cons.mpr ⟨hclear, hplain trivial (by omega)⟩
  | case12 word c rest hspace hslash hsingle hdouble ih =>
      obtain ⟨hle, hplain⟩ := ih h
      have hsame : LexState.room (word ++ [c]) rest .word =
          LexState.room word (c :: rest) .word := by
        simp only [LexState.room, List.length_append, List.length_cons,
          List.length_nil]
        omega
      rw [hsame] at hle hplain
      exact ⟨hle, fun hclear =>
        hplain (hsnoc hclear.2 hspace hslash hsingle hdouble)⟩
  | case13 | case14 | case20 | case21 => cases h
  | _ =>
      rename_i ih
      have hle := (ih h).1
      simp only [LexState.room, List.length_append, List.length_cons,
        List.length_nil] at hle ⊢
      exact ⟨by omega, fun hclear => hclear.elim⟩

theorem lexWords_cons {c : Char} (h : shlexMark c = false)
    (word rest : List Char) :
    lexWords .blank word (c :: rest) = lexWords .word [c] rest ∧
      lexWords .word word (c :: rest) = lexWords .word (word ++ [c]) rest := by
  simp only [shlexMark, Bool.or_eq_false_iff, decide_eq_false_iff_not,
    List.mem_cons, List.not_mem_nil, or_false, not_or] at h
  simp [lexWords, h]

theorem lexWords_word {word more rest : List Char}
    (h : ∀ c ∈ more, shlexMark c = false) :
    lexWords .word word (more ++ rest) =
      lexWords .word (word ++ more) rest := by
  induction more generalizing word with
  | nil => rw [List.append_nil, List.nil_append]
  | cons c more ih =>
      obtain ⟨hc, hmore⟩ := List.forall_mem_cons.mp h
      rw [List.cons_append, (lexWords_cons hc _ _).2, ih hmore,
        List.append_assoc]
      rfl

theorem lexWords_first {word rest : List Char} (h : PlainWord word) :
    lexWords .blank [] (word ++ rest) = lexWords .word word rest := by
  obtain ⟨c, more, rfl⟩ := List.exists_cons_of_ne_nil h.1
  obtain ⟨hc, hmore⟩ := List.forall_mem_cons.mp h.2
  rw [List.cons_append, (lexWords_cons hc _ _).1, lexWords_word hmore]
  rfl

theorem lexWords_join {words : List (List Char)}
    (h : ∀ word ∈ words, PlainWord word) :
    lexWords .blank [] ([' '].intercalate words) = .ok words := by
  induction words with
  | nil => rfl
  | cons word rest ih =>
      obtain ⟨hword, hrest⟩ := List.forall_mem_cons.mp h
      cases rest with
      | nil => simpa [lexWords] using @lexWords_first _ [] hword
      | cons next rest =>
          rw [List.intercalate_cons_cons, List.append_assoc,
            lexWords_first hword, List.singleton_append, lexWords,
            if_pos (by decide), ih hrest]
          rfl

theorem shlexSplit_eq_ok {text : String} {words : List String} :
    shlexSplit text = .ok words ↔
      lexWords .blank [] text.toList = .ok (words.map String.toList) := by
  unfold shlexSplit
  cases lexWords .blank [] text.toList with
  | error e => simp [Except.map]
  | ok found =>
      simp only [Except.map, Except.ok.injEq]
      constructor
      · rintro rfl
        simp [Function.comp_def]
      · rintro rfl
        simp [Function.comp_def]

namespace ScopeWitness

theorem scoped_of (file : String) (h : touchedTests [file] ≠ []) :
    Scoped (strip "pytest -q") [file] ["pytest", "-q"] :=
  ⟨by decide +kernel, by rfl, by decide +kernel, h⟩

end ScopeWitness

end Voly
