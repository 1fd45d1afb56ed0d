/-
File trees with symbolic links: where a path leads, how it is resolved, and that
both agree.
-/
import Mathlib.Data.List.Infix
import Mathlib.Data.String.Basic
import Voly.Records.Keyed

namespace Files

abbrev Path := List String

/-- A file without content is one that cannot be read. -/
inductive Node where
  | file (content : Option String)
  | dir
  | link (target : String)
deriving DecidableEq

/-- The components of a path that is written out. -/
def parts (text : String) : List String :=
  ((text.toList.splitOn '/').map String.ofList).filter fun name =>
    name ≠ "" ∧ name ≠ "."

/-- Where the components of a written path are counted from. -/
def start (here : Path) (text : String) : Path :=
  if text.toList.head? = some '/' then [] else here

/-- The entries of a tree in some order, each below a directory. -/
structure FileSystem where
  entries : List (Path × Node)
  nodup : (entries.map Prod.fst).Nodup
  ordinary : ∀ entry ∈ entries,
    entry.1 ≠ [] ∧ "" ∉ entry.1 ∧ "." ∉ entry.1 ∧ ".." ∉ entry.1
  below : ∀ entry ∈ entries,
    entry.1.dropLast = [] ∨ (entry.1.dropLast, Node.dir) ∈ entries

namespace FileSystem

variable (fs : FileSystem)

def node? (p : Path) : Option Node :=
  if p = [] then some .dir
  else (Keyed.lookup Prod.fst p fs.entries).map Prod.snd

/-- One component after the other; at a link its target goes in front of the
rest. -/
def advance (follow : Path → List String → Option Path) :
    Path → List String → Option Path
  | here, [] => some here
  | here, name :: rest =>
      if fs.node? here ≠ some .dir then none
      else if name = ".." then advance follow here.dropLast rest
      else
        match fs.node? (here ++ [name]) with
        | none => none
        | some (.link target) =>
            follow (start here target) (parts target ++ rest)
        | some _ => advance follow (here ++ [name]) rest

/-- The way along a path with a bound on the links in it. -/
def locate : Nat → Path → List String → Option Path
  | 0 => fs.advance fun _ _ => none
  | links + 1 => fs.advance (locate links)

/-- What `stat` finds: Linux follows up to forty links. -/
def stat (p : Path) : Option Path := fs.locate 40 [] p

/-- One component after the other; what is not there is kept as it is
written. -/
def walk (follow : Path → List String → Option Path) :
    Path → List String → Option Path
  | here, [] => some here
  | here, name :: rest =>
      if name = ".." then walk follow here.dropLast rest
      else
        match fs.node? (here ++ [name]) with
        | some (.link target) =>
            (follow (start here target) (parts target)).bind fun mid =>
              walk follow mid rest
        | _ => walk follow (here ++ [name]) rest

/-- Links within links up to a depth. -/
def joinRealpath : Nat → Path → List String → Option Path
  | 0 => fs.walk fun _ _ => none
  | depth + 1 => fs.walk (joinRealpath depth)

/-- `os.path.realpath`, none at a loop: deeper than there are links, one of
them is met within itself. -/
def realpath (p : List String) : Option Path :=
  fs.joinRealpath fs.entries.length [] p

/-- No link on the way and no way up. -/
structure Resolved (p : Path) : Prop where
  physical : ∀ q, q <+: p → ∀ target, fs.node? q ≠ some (.link target)
  clean : ".." ∉ p

variable {fs} {p q here mid : Path} {rest : List String}

theorem resolved_nil : fs.Resolved [] where
  physical q hq target := by
    rw [List.prefix_nil.mp hq]
    intro h
    cases h
  clean := List.not_mem_nil

theorem Resolved.above (h : fs.Resolved p) (hq : q <+: p) :
    fs.Resolved q where
  physical s hs := h.physical s (hs.trans hq)
  clean hmem := h.clean (hq.subset hmem)

theorem Resolved.snoc {name : String} (h : fs.Resolved here)
    (hname : name ≠ "..")
    (hlink : ∀ target, fs.node? (here ++ [name]) ≠ some (.link target)) :
    fs.Resolved (here ++ [name]) where
  physical q hq := by
    rcases List.prefix_concat_iff.mp hq with rfl | hq
    · exact hlink
    · exact h.physical q hq
  clean hmem := by
    rcases List.mem_append.mp hmem with hmem | hmem
    · exact h.clean hmem
    · exact hname (List.mem_singleton.mp hmem).symm

theorem start_resolved (h : fs.Resolved here) (text : String) :
    fs.Resolved (start here text) := by
  unfold start
  split
  · exact resolved_nil
  · exact h

theorem advance_resolved {follow : Path → List String → Option Path}
    (h : fs.Resolved (here ++ rest))
    (hfound : fs.advance follow here rest = some mid) : mid = here ++ rest := by
  induction rest generalizing here with
  | nil =>
      cases hfound
      rw [List.append_nil]
  | cons name rest ih =>
      have hsplit : here ++ name :: rest = here ++ [name] ++ rest := by simp
      have hname : name ≠ ".." := by
        rintro rfl
        exact h.clean (by simp)
      rw [hsplit] at h
      have hlink := h.physical (here ++ [name]) (List.prefix_append _ _)
      rw [advance] at hfound
      rw [hsplit]
      split at hfound
      · cases hfound
      · split at hfound
        · cases hfound
        · next target hnode => exact absurd hnode (hlink target)
        · exact ih h hfound

theorem stat_resolved (h : fs.Resolved p) (hfound : fs.stat p = some mid) :
    mid = p := by
  have hadvance : fs.advance (fs.locate 39) [] p = some mid := hfound
  exact advance_resolved h hadvance

theorem walk_resolved {follow : Path → List String → Option Path}
    (hfollow : ∀ here rest mid, fs.Resolved here →
      follow here rest = some mid → fs.Resolved mid)
    (h : fs.Resolved here) (hwalk : fs.walk follow here rest = some mid) :
    fs.Resolved mid := by
  induction rest generalizing here with
  | nil =>
      cases hwalk
      exact h
  | cons name rest ih =>
      rw [walk] at hwalk
      split at hwalk
      · exact ih (h.above (List.dropLast_prefix here)) hwalk
      · next hname =>
          split at hwalk
          · next target _ =>
              obtain ⟨out, hout, hrest⟩ := Option.bind_eq_some_iff.mp hwalk
              have hstart := start_resolved h target
              exact ih (hfollow _ _ out hstart hout) hrest
          · next hlink => exact ih (h.snoc hname hlink) hwalk

theorem joinRealpath_resolved (depth : Nat) (h : fs.Resolved here)
    (hjoin : fs.joinRealpath depth here rest = some mid) :
    fs.Resolved mid := by
  induction depth generalizing here rest mid with
  | zero =>
      apply walk_resolved _ h hjoin
      intro _ _ _ _ hnone
      cases hnone
  | succ depth ih =>
      exact walk_resolved (fun _ _ _ hhere hmid => ih hhere hmid) h hjoin

theorem realpath_resolved (h : fs.realpath rest = some mid) :
    fs.Resolved mid :=
  joinRealpath_resolved fs.entries.length resolved_nil h

theorem walk_along {follow : Path → List String → Option Path}
    (h : fs.Resolved (here ++ p)) :
    fs.walk follow here (p ++ rest) = fs.walk follow (here ++ p) rest := by
  induction p generalizing here with
  | nil => rw [List.nil_append, List.append_nil]
  | cons name p ih =>
      have hsplit : here ++ name :: p = here ++ [name] ++ p := by simp
      have hname : name ≠ ".." := by
        rintro rfl
        exact h.clean (by simp)
      rw [hsplit] at h
      have hlink := h.physical (here ++ [name]) (List.prefix_append _ _)
      rw [List.cons_append, walk, if_neg hname, hsplit, ← ih h]
      split
      · next target hnode => exact absurd hnode (hlink target)
      · rfl

theorem realpath_self (h : fs.Resolved p) : fs.realpath p = some p := by
  have hwalk (follow : Path → List String → Option Path) :
      fs.walk follow [] p = some p := by
    have halong := @walk_along fs p [] [] follow h
    rw [List.append_nil] at halong
    exact halong
  unfold realpath
  cases fs.entries.length with
  | zero => exact hwalk _
  | succ depth => exact hwalk _

theorem node?_of_mem {node : Node} (h : (p, node) ∈ fs.entries) :
    fs.node? p = some node := by
  have hne : p ≠ [] := (fs.ordinary _ h).1
  rw [node?, if_neg hne, Keyed.lookup_key fs.nodup h, Option.map_some]

theorem node?_above {node : Node} (h : (p, node) ∈ fs.entries) (hq : q <+: p)
    (hne : q ≠ p) : fs.node? q = some .dir := by
  induction hlength : p.length generalizing p node with
  | zero =>
      have hempty : p = [] := List.length_eq_zero_iff.mp hlength
      exact absurd hempty (fs.ordinary _ h).1
  | succ n ih =>
      obtain ⟨name, hname⟩ : ∃ name, p = p.dropLast ++ [name] :=
        ⟨p.getLast (fs.ordinary _ h).1,
          (List.dropLast_append_getLast _).symm⟩
      have hshort : q <+: p.dropLast := by
        rw [hname] at hq hne
        rcases List.prefix_concat_iff.mp hq with hsame | hshort
        · exact absurd hsame hne
        · exact hshort
      rcases fs.below _ h with htop | hparent
      · rw [htop] at hshort
        rw [List.prefix_nil.mp hshort]
        rfl
      · by_cases hsame : q = p.dropLast
        · rw [hsame]
          exact node?_of_mem hparent
        · apply ih hparent hshort hsame
          rw [List.length_dropLast, hlength]
          rfl

theorem node?_dir_above (h : fs.node? p = some .dir) (hq : q <+: p) :
    fs.node? q = some .dir := by
  by_cases hsame : q = p
  · rw [hsame, h]
  · by_cases htop : p = []
    · rw [htop] at hq hsame
      exact absurd (List.prefix_nil.mp hq) hsame
    · rw [node?, if_neg htop] at h
      obtain ⟨entry, hlookup, hnode⟩ := Option.map_eq_some_iff.mp h
      have hmem := Keyed.mem_of_lookup hlookup
      have hentry : entry = (p, Node.dir) :=
        Prod.ext (Keyed.key_of_lookup hlookup) hnode
      exact node?_above (hentry ▸ hmem) hq hsame

theorem resolved_of_mem {node : Node} (h : (p, node) ∈ fs.entries)
    (hlink : ∀ target, node ≠ .link target) : fs.Resolved p where
  physical q hq target := by
    by_cases hsame : q = p
    · rw [hsame, node?_of_mem h]
      exact fun heq => hlink target (Option.some.inj heq)
    · rw [node?_above h hq hsame]
      intro heq
      cases heq
  clean := (fs.ordinary _ h).2.2.2

end FileSystem

end Files
