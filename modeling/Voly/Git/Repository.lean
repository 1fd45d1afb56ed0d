/-
A git repository as the commands document it: the HEAD tree, the index and the
worktree.  Paths are relative to its root.
-/
import Voly.Python.Text

namespace Git

open Python

abbrev Path := String

abbrev Blob := String

abbrev Tree := Dict Blob

structure Repo where
  head : Tree := []
  index : Tree := []
  work : Tree := []

/-- What git decides by its own rules: ignored paths, renames, diffs. -/
structure Rules where
  ignored : Tree → Path → Bool
  renames : Tree → Tree → List (Path × Path)
  diffText : Tree → Repo → String

/-- Take a path out of a tree. -/
def Tree.remove (path : Path) : Tree → Tree
  | [] => []
  | (k, blob) :: rest =>
      if k = path then Tree.remove path rest
      else (k, blob) :: Tree.remove path rest

def Tree.put (tree : Tree) (path : Path) : Option Blob → Tree
  | some blob => Dict.set tree path blob
  | none => Tree.remove path tree

/-- The files of a list of paths, as `find` has them. -/
def Tree.ofPaths (find : Path → Option Blob) : List Path → Tree
  | [] => []
  | path :: rest =>
      match find path with
      | some blob => (path, blob) :: Tree.ofPaths find rest
      | none => Tree.ofPaths find rest

/-- The paths of two trees, in order. -/
def pathsOf (left right : Tree) : List Path :=
  sorted ((left.keys ++ right.keys).eraseDups)

theorem get?_remove (tree : Tree) (path other : Path) :
    Dict.get? (Tree.remove path tree) other =
      if path = other then none else Dict.get? tree other := by
  induction tree with
  | nil => simp [Tree.remove, Dict.get?]
  | cons item rest ih =>
      obtain ⟨k, blob⟩ := item
      by_cases hk : k = path
      · rw [Tree.remove, if_pos hk, ih]
        by_cases ho : path = other
        · rw [if_pos ho, if_pos ho]
        · have hko : k ≠ other := fun h => ho (hk.symm.trans h)
          rw [if_neg ho, if_neg ho, Dict.get?, if_neg hko]
      · rw [Tree.remove, if_neg hk, Dict.get?, ih, Dict.get?]
        by_cases hko : k = other
        · have ho : path ≠ other := fun h => hk (hko.trans h.symm)
          rw [if_pos hko, if_neg ho, if_pos hko]
        · rw [if_neg hko, if_neg hko]

theorem get?_put (tree : Tree) (path other : Path) (blob : Option Blob) :
    Dict.get? (Tree.put tree path blob) other =
      if path = other then blob else Dict.get? tree other := by
  cases blob with
  | none => exact get?_remove tree path other
  | some b => exact Dict.get?_set tree path other b

theorem get?_ofPaths (find : Path → Option Blob) (paths : List Path)
    (path : Path) :
    Dict.get? (Tree.ofPaths find paths) path =
      if path ∈ paths then find path else none := by
  induction paths with
  | nil => rfl
  | cons head rest ih =>
      by_cases hp : head = path
      · subst hp
        cases hfind : find head with
        | none => simp [Tree.ofPaths, hfind, ih]
        | some blob => simp [Tree.ofPaths, hfind, Dict.get?]
      · have hmem : path ∈ head :: rest ↔ path ∈ rest := by
          simp [Ne.symm hp]
        cases hfind : find head with
        | none => simp only [Tree.ofPaths, hfind, ih, hmem]
        | some blob => simp only [Tree.ofPaths, hfind, Dict.get?, if_neg hp, ih,
            hmem]

theorem mem_keys_iff {α : Type} {d : Dict α} {key : String} :
    key ∈ d.keys ↔ d.get? key ≠ none := by
  induction d with
  | nil => simp [Dict.keys, Dict.get?]
  | cons item rest ih =>
      obtain ⟨k, v⟩ := item
      by_cases hk : k = key
      · simp [Dict.keys, Dict.get?, hk]
      · have : key ∈ Dict.keys ((k, v) :: rest) ↔ key ∈ Dict.keys rest := by
          simp [Dict.keys, Ne.symm hk]
        rw [this, ih, Dict.get?, if_neg hk]

theorem mem_sorted {xs : List String} {x : String} :
    x ∈ sorted xs ↔ x ∈ xs :=
  (List.perm_insertionSort _ xs).mem_iff

theorem mem_pathsOf {left right : Tree} {path : Path} :
    path ∈ pathsOf left right ↔
      Dict.get? left path ≠ none ∨ Dict.get? right path ≠ none := by
  rw [pathsOf, mem_sorted, List.mem_eraseDups, List.mem_append,
    mem_keys_iff, mem_keys_iff]

/-- The letters that git never prints bare. -/
def isSpecial (c : Char) : Bool :=
  c.toNat < 32 || 127 ≤ c.toNat || c == '"' || c == Char.ofNat 92

/-- Three octal digits of a byte. -/
def octal (byte : Nat) : List Char :=
  [Char.ofNat (48 + byte / 64), Char.ofNat (48 + byte / 8 % 8),
    Char.ofNat (48 + byte % 8)]

/-- A letter of a quoted path, escaped as in C. -/
def escape (c : Char) : List Char :=
  let backslash := Char.ofNat 92
  match c.toNat with
  | 7 => [backslash, 'a']
  | 8 => [backslash, 'b']
  | 9 => [backslash, 't']
  | 10 => [backslash, 'n']
  | 11 => [backslash, 'v']
  | 12 => [backslash, 'f']
  | 13 => [backslash, 'r']
  | 34 => [backslash, '"']
  | 92 => [backslash, backslash]
  | _ =>
      if isSpecial c then
        (String.utf8EncodeChar c).flatMap fun byte =>
          backslash :: octal byte.toNat
      else [c]

/-- A path as git prints it.  `git status` quotes blanks too. -/
def quotePath (quoteBlank : Bool) (path : Path) : String :=
  if path.toList.any fun c => isSpecial c || (quoteBlank && c == ' ') then
    String.ofList ('"' :: path.toList.flatMap escape ++ ['"'])
  else path

namespace Repo

variable (git : Rules) (repo : Repo)

/-- A path that HEAD or the index knows. -/
def tracked (path : Path) : Bool :=
  (Dict.get? repo.head path).isSome || (Dict.get? repo.index path).isSome

/-- The staged renames: paths gone from the index paired with paths new in
it. -/
def stagedRenames : List (Path × Path) :=
  git.renames
    (repo.head.filter fun item => (Dict.get? repo.index item.1).isNone)
    (repo.index.filter fun item => (Dict.get? repo.head item.1).isNone)

/-- The first status letter: the index against HEAD. -/
def stagedCode (path : Path) : Char :=
  match Dict.get? repo.head path, Dict.get? repo.index path with
  | none, none => ' '
  | none, some _ =>
      if path ∈ (repo.stagedRenames git).map Prod.snd then 'R' else 'A'
  | some _, none => 'D'
  | some old, some new => if old = new then ' ' else 'M'

/-- The second status letter: the worktree against the index. -/
def unstagedCode (path : Path) : Char :=
  match Dict.get? repo.index path, Dict.get? repo.work path with
  | none, _ => ' '
  | some _, none => 'D'
  | some old, some new => if old = new then ' ' else 'M'

def statusName (path : Path) : String :=
  match (repo.stagedRenames git).find? fun pair => pair.2 = path with
  | some (old, _) => quotePath true old ++ " -> " ++ quotePath true path
  | none => quotePath true path

def trackedLine (path : Path) : Option String :=
  let x := repo.stagedCode git path
  let y := repo.unstagedCode path
  if (x = ' ' ∧ y = ' ') ∨
      (x = 'D' ∧ path ∈ (repo.stagedRenames git).map Prod.fst) then
    none
  else some (String.ofList [x, y, ' '] ++ repo.statusName git path)

/-- The line of a path that is only in the worktree. -/
def untrackedLine (path : Path) : Option String :=
  if (Dict.get? repo.index path).isSome ∨
      (Dict.get? repo.work path).isNone ∨ git.ignored repo.work path then
    none
  else some ("?? " ++ quotePath true path)

/-- `git status --porcelain -u`, line by line. -/
def status : List String :=
  (pathsOf repo.head repo.index).filterMap (repo.trackedLine git) ++
    (sorted repo.work.keys.eraseDups).filterMap (repo.untrackedLine git)

/-- The worktree file of a path the index knows. -/
def visible (path : Path) : Option Blob :=
  match Dict.get? repo.index path with
  | none => none
  | some _ => Dict.get? repo.work path

/-- The paths renamed between a commit and the worktree. -/
def diffRenames (commit : Tree) : List (Path × Path) :=
  git.renames
    (commit.filter fun item => (repo.visible item.1).isNone)
    (Tree.ofPaths
      (fun path =>
        match Dict.get? commit path with
        | none => repo.visible path
        | some _ => none)
      (pathsOf commit repo.index))

/-- `git diff --name-only <commit>`.  The old path of a rename is not shown. -/
def diffNames (commit : Tree) : List String :=
  ((pathsOf commit repo.index).filter fun path =>
    repo.visible path ≠ Dict.get? commit path ∧
      path ∉ (repo.diffRenames git commit).map Prod.fst).map (quotePath false)

/-- Nothing tracked differs between HEAD, index and worktree. -/
def clean : Bool :=
  (pathsOf repo.head repo.index).all fun path =>
    Dict.get? repo.head path = Dict.get? repo.index path ∧
      Dict.get? repo.index path = Dict.get? repo.work path

/-- `git stash create`: the tracked files.  A clean tree prints nothing. -/
def stashCreate : Option Tree :=
  if repo.clean then none
  else some (Tree.ofPaths (Dict.get? repo.work)
    (pathsOf repo.head repo.index))

/-- `git checkout <commit> -- <path>`, unless the commit lacks the path. -/
def checkout (commit : Tree) (path : Path) : Option Repo :=
  match Dict.get? commit path with
  | none => none
  | some blob =>
      some { repo with
        index := Tree.put repo.index path (some blob)
        work := Tree.put repo.work path (some blob) }

end Repo

/-- A file operation or git command. -/
inductive Action where
  | write (path : Path) (blob : Blob)
  | delete (path : Path)
  | rename (old new : Path)
  | add (path : Path)
  | rmCached (path : Path)
  | commit

/-- A rename of a missing file does nothing. -/
def Repo.perform (repo : Repo) : Action → Repo
  | .write path blob =>
      { repo with work := Tree.put repo.work path (some blob) }
  | .delete path => { repo with work := Tree.remove path repo.work }
  | .rename old new =>
      match Dict.get? repo.work old with
      | none => repo
      | some blob =>
          { repo with
            work := Tree.put (Tree.remove old repo.work) new (some blob) }
  | .add path =>
      { repo with
        index := Tree.put repo.index path (Dict.get? repo.work path) }
  | .rmCached path => { repo with index := Tree.remove path repo.index }
  | .commit => { repo with head := repo.index }

def Repo.performAll (repo : Repo) (actions : List Action) : Repo :=
  actions.foldl Repo.perform repo

end Git
