/-
The read-only workspace of the agentic judge: its tools, and which entries of
the file tree they show.
-/
import Voly.Files.Links
import Voly.Python.Loops
import Voly.Python.Number

namespace Voly.A2A

open Python Files

/-- A part of an output, with the entry that it tells of. -/
structure Piece where
  location : Path
  text : List Char

/-- The parts of an output and what stands between them. -/
structure ToolOutput where
  separator : List Char
  pieces : List Piece

/-- `separator.join(...)[:limit]`. -/
def ToolOutput.text (limit : Nat) (out : ToolOutput) : List Char :=
  (out.separator.intercalate (out.pieces.map Piece.text)).take limit

/-- The parts that begin before the cut. -/
def visiblePieces (gap : Nat) : Nat → List Piece → List Piece
  | 0, _ => []
  | _ + 1, [] => []
  | room + 1, piece :: rest =>
      piece ::
        visiblePieces gap (room + 1 - (piece.text.length + gap)) rest

def ToolOutput.visible (limit : Nat) (out : ToolOutput) : List Piece :=
  visiblePieces out.separator.length limit out.pieces

/-- An exception that the tools refuse with, or any other. -/
inductive ToolError where
  | refused (text : String)
  | crashed (text : String)
deriving DecidableEq

/-- A part of what `git diff` prints, with the file that it is about. -/
abbrev GitChange := Piece

/-- A workspace: the file tree, what `git diff` does there, and `str.lower`. -/
structure JudgeWorkspace where
  files : FileSystem
  root : Path
  resolved : files.Resolved root
  gitDiff : Except String (List GitChange) := .ok []
  lower : List Char → List Char

/-- `query.lower() in line.lower()`. -/
def occursIn (needle text : List Char) : Bool :=
  text.tails.any fun rest => needle.isPrefixOf rest

structure FileLine where
  item : Path
  location : Path
  number : Nat
  line : List Char

namespace JudgeWorkspace

variable (ws : JudgeWorkspace)

/-- `self.root / relative`. -/
def joined (relative : String) : List String :=
  if relative.toList.head? = some '/' then parts relative
  else ws.root ++ parts relative

/-- `(self.root / relative).resolve()`, which raises at a loop of links. -/
def resolve (relative : String) : Except ToolError Path :=
  if Char.ofNat 0 ∈ relative.toList then
    .error (.refused "embedded null byte")
  else
    match ws.files.realpath (ws.joined relative) with
    | some candidate => .ok candidate
    | none => .error (.crashed "Symlink loop")

def path : Doc → Except ToolError Path
  | .str relative => do
      let candidate ← ws.resolve relative
      if ws.root <+: candidate then pure candidate
      else .error (.refused "path escapes judge workspace")
  | _ => .error (.crashed "unsupported operand type(s) for /")

def openFile (p : Path) : Option (Path × Option String) :=
  match ws.files.stat p with
  | none => none
  | some location =>
      match ws.files.node? location with
      | some (.file content) => some (location, content)
      | _ => none

/-- `base.rglob("*")`: it does not go through links. -/
def rglob (base : Path) : List Path :=
  (ws.files.entries.map Prod.fst).filter fun item => base <+: item ∧ item ≠ base

/-- `".git" in item.parts or ".voly" in item.parts`. -/
def hidden (item : Path) : Bool :=
  decide (".git" ∈ item) || decide (".voly" ∈ item)

/-- `item.relative_to(self.root).as_posix()`. -/
def relativeName (item : Path) : List Char :=
  ("/".intercalate (item.drop ws.root.length)).toList

def visibleFiles (base : Path) : List (Path × Path × Option String) :=
  (ws.rglob base).filterMap fun item =>
    if hidden item then none
    else (ws.openFile item).map fun found => (item, found)

def listFiles (path : Doc) : Except ToolError ToolOutput := do
  let base ← ws.path path
  let pieces := (ws.visibleFiles base).map fun found =>
    { location := found.2.1, text := ws.relativeName found.1 : Piece }
  pure
    { separator := ['\n']
      pieces := pieces.insertionSort fun a b => a.text ≤ b.text }

def readFile (path : Doc) : Except ToolError ToolOutput := do
  let target ← ws.path path
  match ws.openFile target with
  | none => .error (.refused "file does not exist")
  | some (_, none) => .error (.refused "file cannot be read")
  | some (location, some content) =>
      pure
        { separator := []
          pieces := [{ location, text := content.toList }] }

/-- The lines of the files below a path, an unreadable file having none. -/
def searchedLines (base : Path) : List FileLine :=
  (ws.visibleFiles base).flatMap fun found =>
    match found.2.2 with
    | none => []
    | some content =>
        (splitLines content.toList).mapIdx fun i line =>
          { item := found.1, location := found.2.1, number := i + 1, line }

/-- `f"{...}:{number}:{line[:300]}"`. -/
def matchPiece (found : FileLine) : Piece where
  location := found.location
  text := ws.relativeName found.item ++ [':'] ++
    (toString found.number).toList ++ [':'] ++ found.line.take 300

/-- The loop over the lines, which ends once the matches fill the output. -/
def searchLoop (limit : Nat) (query : List Char) :
    List FileLine → List Piece → List Piece
  | [], pieces => pieces
  | found :: rest, pieces =>
      if occursIn (ws.lower query) (ws.lower found.line) then
        let pieces := pieces ++ [ws.matchPiece found]
        if limit ≤ (List.intercalate ['\n'] (pieces.map Piece.text)).length then
          pieces
        else searchLoop limit query rest pieces
      else searchLoop limit query rest pieces

def searchBelow (limit : Nat) (query : Doc) (base : Path) :
    Except ToolError ToolOutput :=
  let lines := ws.searchedLines base
  match query with
  | .str query =>
      .ok
        { separator := ['\n']
          pieces := ws.searchLoop limit query.toList lines [] }
  | _ =>
      if lines = [] then .ok { separator := ['\n'], pieces := [] }
      else .error (.crashed "object has no attribute 'lower'")

def searchText (limit : Nat) (query path : Doc) :
    Except ToolError ToolOutput := do
  if !truthy query then .error (.refused "query is required")
  else
    let base ← ws.path path
    ws.searchBelow limit query base

def runGitDiff : Except ToolError ToolOutput :=
  match ws.gitDiff with
  | .ok changes => .ok { separator := [], pieces := changes }
  | .error e => .error (.refused e)

def checkKeywords (parameters : List String) (arguments : Dict Doc) :
    Except ToolError Unit :=
  if arguments.any fun item => item.1 ∉ parameters then
    .error (.crashed "got an unexpected keyword argument")
  else .ok ()

/-- The value of a parameter, or its default. -/
def argument (arguments : Dict Doc) (parameter : String)
    (default : Option Doc) : Except ToolError Doc :=
  match (arguments.get? parameter).or default with
  | some value => .ok value
  | none => .error (.crashed "missing a required argument")

/-- `call`, with `max_output_chars`. -/
def call (limit : Nat) (name : String) (arguments : Dict Doc) :
    Except ToolError ToolOutput :=
  if name = "list_files" then do
    checkKeywords ["path"] arguments
    let path ← argument arguments "path" (some (.str "."))
    ws.listFiles path
  else if name = "read_file" then do
    checkKeywords ["path"] arguments
    let path ← argument arguments "path" none
    ws.readFile path
  else if name = "search_text" then do
    checkKeywords ["query", "path"] arguments
    let query ← argument arguments "query" none
    let path ← argument arguments "path" (some (.str "."))
    ws.searchText limit query path
  else if name = "git_diff" then do
    checkKeywords [] arguments
    ws.runGitDiff
  else .error (.refused "tool is not read-only or is unsupported")

end JudgeWorkspace

section Visible

variable {gap limit : Nat} {pieces : List Piece}

theorem visiblePieces_subset :
    visiblePieces gap limit pieces ⊆ pieces := by
  induction pieces generalizing limit with
  | nil => cases limit <;> exact List.Subset.refl []
  | cons piece rest ih =>
      cases limit with
      | zero => exact List.nil_subset _
      | succ room => exact List.cons_subset_cons piece ih

theorem visiblePieces_all
    (h : (pieces.map fun piece => piece.text.length + gap + 1).sum ≤ limit) :
    visiblePieces gap limit pieces = pieces := by
  induction pieces generalizing limit with
  | nil => cases limit <;> rfl
  | cons piece rest ih =>
      rw [List.map_cons, List.sum_cons] at h
      cases limit with
      | zero => omega
      | succ room => rw [visiblePieces, ih (by omega)]

end Visible

namespace JudgeWorkspace

section Confinement

variable {ws : JudgeWorkspace} {base item : Path}

theorem path_inside {relative : Doc} (h : ws.path relative = .ok base) :
    ws.root <+: base ∧ ws.files.Resolved base := by
  cases relative with
  | str text =>
      obtain ⟨candidate, hcandidate, h⟩ := ok_of_bind h
      have hresolved : ws.files.Resolved candidate := by
        unfold resolve at hcandidate
        split at hcandidate
        · cases hcandidate
        · split at hcandidate
          · next hreal =>
              cases hcandidate
              exact FileSystem.realpath_resolved hreal
          · cases hcandidate
      split at h
      · next hinside =>
          cases h
          exact ⟨hinside, hresolved⟩
      · cases h
  | atom _ => cases h
  | list _ => cases h
  | dict _ => cases h

theorem path_dot : ws.path (.str ".") = .ok ws.root := by
  have hreal : ws.resolve "." = .ok ws.root := by
    have hjoined : ws.joined "." = ws.root := by
      unfold joined
      rw [if_neg (by decide)]
      exact List.append_nil _
    unfold resolve
    rw [hjoined, if_neg (by decide), FileSystem.realpath_self ws.resolved]
  change (ws.resolve "." >>= fun candidate =>
    if ws.root <+: candidate then pure candidate else _) = _
  rw [hreal]
  exact if_pos List.prefix_rfl

theorem openFile_resolved {found : Path × Option String}
    (h : ws.files.Resolved item) (hopen : ws.openFile item = some found) :
    found.1 = item := by
  unfold openFile at hopen
  split at hopen
  · cases hopen
  · next location hstat =>
      split at hopen
      · cases hopen
        exact FileSystem.stat_resolved h hstat
      · cases hopen

theorem mem_rglob : item ∈ ws.rglob base ↔
    (∃ node, (item, node) ∈ ws.files.entries) ∧ base <+: item ∧
      item ≠ base := by
  simp [rglob]

variable (ws) in
/-- No link in the workspace, the hidden ones apart, leads to a file
outside. -/
def LinksInside : Prop :=
  ∀ item target, (item, Node.link target) ∈ ws.files.entries →
    ws.root <+: item → hidden item = false →
    ∀ found, ws.openFile item = some found → ws.root <+: found.1

variable (ws) in
/-- `git diff` prints nothing of files outside the workspace. -/
def DiffInside : Prop :=
  ∀ changes, ws.gitDiff = .ok changes →
    ∀ change ∈ changes, ws.root <+: change.location

variable (ws) in
/-- No output, of whatever size, shows a part of an entry outside. -/
def Confined : Prop :=
  ∀ limit name arguments out, ws.call limit name arguments = .ok out →
    ∀ piece ∈ out.visible limit, ws.root <+: piece.location

theorem visibleFiles_inside (h : ws.LinksInside) (hbase : ws.root <+: base) :
    ∀ found ∈ ws.visibleFiles base, ws.root <+: found.2.1 := by
  intro found hfound
  obtain ⟨item, hitem, hfound⟩ := List.mem_filterMap.mp hfound
  obtain ⟨⟨node, hnode⟩, hbelow, _⟩ := mem_rglob.mp hitem
  split at hfound
  · cases hfound
  · next hvisible =>
      obtain ⟨location, hopen, rfl⟩ := Option.map_eq_some_iff.mp hfound
      have hinside : ws.root <+: item := hbase.trans hbelow
      by_cases hlink : ∃ target, node = .link target
      · obtain ⟨target, rfl⟩ := hlink
        exact h item target hnode hinside (by simpa using hvisible) location
          hopen
      · have hresolved := FileSystem.resolved_of_mem hnode fun target heq =>
          hlink ⟨target, heq⟩
        dsimp only
        rw [openFile_resolved hresolved hopen]
        exact hinside

theorem mem_searchLoop {limit : Nat} {query : List Char}
    {lines : List FileLine} {pieces : List Piece} {piece : Piece}
    (h : piece ∈ ws.searchLoop limit query lines pieces) :
    piece ∈ pieces ∨ ∃ found ∈ lines, piece = ws.matchPiece found := by
  induction lines generalizing pieces with
  | nil => exact Or.inl h
  | cons found rest ih =>
      have hlater : (piece ∈ pieces ++ [ws.matchPiece found] ∨
          ∃ found ∈ rest, piece = ws.matchPiece found) →
          piece ∈ pieces ∨ ∃ other ∈ found :: rest,
            piece = ws.matchPiece other := by
        rintro (hmem | ⟨other, hother, heq⟩)
        · rcases List.mem_append.mp hmem with hmem | hmem
          · exact Or.inl hmem
          · exact Or.inr ⟨found, List.mem_cons_self,
              List.mem_singleton.mp hmem⟩
        · exact Or.inr ⟨other, List.mem_cons_of_mem found hother, heq⟩
      rw [searchLoop] at h
      split at h
      · dsimp only at h
        split at h
        · exact hlater (Or.inl h)
        · exact hlater (ih h)
      · rcases ih h with hmem | ⟨other, hother, heq⟩
        · exact Or.inl hmem
        · exact Or.inr ⟨other, List.mem_cons_of_mem found hother, heq⟩

theorem searchedLines_inside (h : ws.LinksInside)
    (hbase : ws.root <+: base) :
    ∀ found ∈ ws.searchedLines base, ws.root <+: found.location := by
  intro found hfound
  obtain ⟨file, hfile, hfound⟩ := List.mem_flatMap.mp hfound
  split at hfound
  · cases hfound
  · obtain ⟨i, hi, rfl⟩ := List.mem_mapIdx.mp hfound
    exact visibleFiles_inside h hbase file hfile

variable (ws) in
def PiecesInside (out : ToolOutput) : Prop :=
  ∀ piece ∈ out.pieces, ws.root <+: piece.location

section

variable {out : ToolOutput} {name : String} {arguments : Dict Doc}

theorem listFiles_inside (h : ws.LinksInside) {relative : Doc}
    (hout : ws.listFiles relative = .ok out) :
    ws.PiecesInside out := by
  obtain ⟨base, hbase, hout⟩ := ok_of_bind hout
  cases hout
  intro piece hpiece
  rw [List.mem_insertionSort] at hpiece
  obtain ⟨found, hfound, rfl⟩ := List.mem_map.mp hpiece
  exact visibleFiles_inside h (path_inside hbase).1 found hfound

/-- A file that is read lies in the workspace, whatever links there are. -/
theorem readFile_inside {relative : Doc} (hout : ws.readFile relative = .ok out) :
    ws.PiecesInside out := by
  obtain ⟨target, htarget, hout⟩ := ok_of_bind hout
  obtain ⟨hinside, hresolved⟩ := path_inside htarget
  split at hout
  · cases hout
  · cases hout
  · next location content hopen =>
      cases hout
      intro piece hpiece
      have hlocation : location = target := openFile_resolved hresolved hopen
      rw [List.mem_singleton.mp hpiece]
      exact hlocation ▸ hinside

theorem searchText_inside (h : ws.LinksInside) {limit : Nat}
    {query relative : Doc} (hout : ws.searchText limit query relative = .ok out) :
    ws.PiecesInside out := by
  unfold searchText at hout
  split at hout
  · cases hout
  · obtain ⟨base, hbase, hout⟩ := ok_of_bind hout
    unfold searchBelow at hout
    dsimp only at hout
    split at hout
    · cases hout
      intro piece hpiece
      rcases mem_searchLoop hpiece with hnil | ⟨found, hfound, rfl⟩
      · cases hnil
      · exact searchedLines_inside h (path_inside hbase).1 found hfound
    · split at hout
      · cases hout
        exact List.forall_mem_nil _
      · cases hout

theorem runGitDiff_inside (h : ws.DiffInside) (hout : ws.runGitDiff = .ok out) :
    ws.PiecesInside out := by
  unfold runGitDiff at hout
  cases hdiff : ws.gitDiff with
  | error e =>
      rw [hdiff] at hout
      cases hout
  | ok changes =>
      rw [hdiff] at hout
      cases hout
      exact h changes hdiff

theorem call_inside (hlinks : ws.LinksInside) (hdiff : ws.DiffInside)
    {limit : Nat} (hout : ws.call limit name arguments = .ok out) :
    ws.PiecesInside out := by
  unfold call at hout
  split at hout
  · obtain ⟨_, _, hout⟩ := ok_of_bind hout
    obtain ⟨relative, _, hout⟩ := ok_of_bind hout
    exact listFiles_inside hlinks hout
  · split at hout
    · obtain ⟨_, _, hout⟩ := ok_of_bind hout
      obtain ⟨relative, _, hout⟩ := ok_of_bind hout
      exact readFile_inside hout
    · split at hout
      · obtain ⟨_, _, hout⟩ := ok_of_bind hout
        obtain ⟨query, _, hout⟩ := ok_of_bind hout
        obtain ⟨relative, _, hout⟩ := ok_of_bind hout
        exact searchText_inside hlinks hout
      · split at hout
        · obtain ⟨_, _, hout⟩ := ok_of_bind hout
          exact runGitDiff_inside hdiff hout
        · cases hout

theorem Confined.pieces (h : ws.Confined)
    (hout : ∀ limit, ws.call limit name arguments = .ok out) :
    ws.PiecesInside out := by
  intro piece hpiece
  let limit := (out.pieces.map fun piece =>
    piece.text.length + out.separator.length + 1).sum
  have hall : out.visible limit = out.pieces :=
    visiblePieces_all (Nat.le_refl limit)
  apply h limit name arguments out (hout limit) piece
  rw [hall]
  exact hpiece

end

theorem Confined.linksInside (h : ws.Confined) : ws.LinksInside := by
  intro item target hitem hinside hvisible found hopen
  have hne : item ≠ ws.root := by
    rintro rfl
    exact ws.resolved.physical ws.root List.prefix_rfl target
      (FileSystem.node?_of_mem hitem)
  have hlisted : (item, found) ∈ ws.visibleFiles ws.root := by
    apply List.mem_filterMap.mpr
    refine ⟨item, mem_rglob.mpr ⟨⟨_, hitem⟩, hinside, hne⟩, ?_⟩
    rw [if_neg (by simp [hvisible]), hopen]
    rfl
  obtain ⟨out, hout, hpiece⟩ : ∃ out, ws.listFiles (.str ".") = .ok out ∧
      { location := found.1, text := ws.relativeName item } ∈ out.pieces := by
    unfold listFiles
    rw [path_dot]
    refine ⟨_, rfl, ?_⟩
    rw [List.mem_insertionSort]
    exact List.mem_map_of_mem hlisted
  have hcall : ∀ limit, ws.call limit "list_files" [] = .ok out :=
    fun _ => hout
  exact h.pieces hcall _ hpiece

theorem Confined.diffInside (h : ws.Confined) : ws.DiffInside := by
  intro changes hchanges
  have hout : ∀ limit, ws.call limit "git_diff" [] =
      .ok { separator := [], pieces := changes } := by
    intro limit
    change ws.runGitDiff = _
    rw [runGitDiff, hchanges]
  exact h.pieces hout

end Confinement

/-- No tool shows an entry outside the workspace iff no link leads outside and
`git diff` prints nothing of there. -/
theorem judge_confined_iff (ws : JudgeWorkspace) :
    ws.Confined ↔ ws.LinksInside ∧ ws.DiffInside := by
  constructor
  · intro h
    exact ⟨h.linksInside, h.diffInside⟩
  · rintro ⟨hlinks, hdiff⟩ limit name arguments out hout piece hpiece
    exact call_inside hlinks hdiff hout piece (visiblePieces_subset hpiece)

end JudgeWorkspace

namespace JudgeWorkspaceWitness

def files : FileSystem where
  entries :=
    [(["etc"], .dir), (["etc", "passwd"], .file (some "root:x:0\ndaemon:x:1")),
      (["w"], .dir), (["w", "app.py"], .file (some "answer = 42")),
      (["w", "notes"], .link "/etc/passwd")]
  nodup := by decide
  ordinary := by decide
  below := by decide

theorem root_mem : (["w"], Node.dir) ∈ files.entries := by decide

def workspace : JudgeWorkspace where
  files := files
  root := ["w"]
  resolved := FileSystem.resolved_of_mem root_mem fun _ => Node.noConfusion
  lower text := text.map Char.toLower

def shown (out : Except ToolError ToolOutput) : String :=
  match out with
  | .ok out => String.ofList (out.text 20000)
  | .error (.refused text) => text
  | .error (.crashed text) => text

/-- The search reads through a link what `read_file` refuses. -/
theorem link_searched :
    shown (workspace.call 20000 "read_file" [("path", .str "notes")]) =
      "path escapes judge workspace" ∧
    shown (workspace.call 20000 "search_text" [("query", .str "ROOT")]) =
      "notes:1:root:x:0" ∧ ¬workspace.Confined := by
  refine ⟨by decide +kernel, by decide +kernel, ?_⟩
  intro h
  have hinside := h.linksInside ["w", "notes"] "/etc/passwd" (by decide)
    (by decide) (by decide) (["etc", "passwd"], some "root:x:0\ndaemon:x:1")
    (by decide +kernel)
  revert hinside
  decide

end JudgeWorkspaceWitness

end Voly.A2A
