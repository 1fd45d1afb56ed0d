/-
Paths as texts: what `os.path.realpath` makes of them, and where files and
directories are opened and made.
-/
import Mathlib.Data.List.DropRight
import Voly.Files.Links

namespace Files

def pieces (text : List Char) : List String :=
  (text.splitOn '/').map String.ofList

/-- The components that the operating system sees in a path. -/
def components (text : List Char) : List String := parts (String.ofList text)

def pathText (p : Path) : List Char :=
  '/' :: ['/'].intercalate (p.map String.toList)

/-- `os.path.join`. -/
def joinText (base rest : List Char) : List Char :=
  if rest.head? = some '/' then rest
  else if base = [] ∨ base.getLast? = some '/' then base ++ rest
  else base ++ '/' :: rest

def restText (rest : List String) : List Char :=
  ['/'].intercalate (rest.map String.toList)

/-- A path's components without those that a `..` follows, last one first. -/
def collapse : List String → List String → List String
  | done, [] => done
  | done, name :: rest =>
      if name = "" ∨ name = "." then collapse done rest
      else if name = ".." then collapse done.tail rest
      else collapse (name :: done) rest

/-- `os.path.normpath` of an absolute path: two slashes in front are kept. -/
def normpath (text : List Char) : List Char :=
  let name := pathText (collapse [] (pieces text)).reverse
  if ['/', '/'] <+: text ∧ ¬['/', '/', '/'] <+: text then '/' :: name
  else name

/-- Components that stand for themselves. -/
def Named (p : Path) : Prop :=
  ∀ name ∈ p, name ≠ "" ∧ name ≠ "." ∧ name ≠ ".." ∧ '/' ∉ name.toList

theorem Named.snoc {here : Path} {name : String} (h : Named here)
    (hempty : name ≠ "") (hdot : name ≠ ".") (hup : name ≠ "..")
    (hslash : '/' ∉ name.toList) : Named (here ++ [name]) := by
  intro other hmem
  rcases List.mem_append.mp hmem with hmem | hmem
  · exact h other hmem
  · rw [List.mem_singleton.mp hmem]
    exact ⟨hempty, hdot, hup, hslash⟩

theorem components_slash (first second : List Char) :
    components (first ++ '/' :: second) =
      components first ++ components second := by
  simp only [components, parts, String.toList_ofList]
  rw [List.splitOn_append_cons_of_beq _ _ (beq_self_eq_true _), List.map_append,
    List.filter_append]

@[simp] theorem components_nil : components [] = [] := rfl

theorem components_name {name : String} (h : name ≠ "") (hdot : name ≠ ".")
    (hslash : '/' ∉ name.toList) : components name.toList = [name] := by
  simp [components, parts, List.splitOn_eq_singleton hslash, h, hdot]

theorem components_pathText {p : Path} (h : Named p) :
    components (pathText p) = p := by
  have hslash (names : List String) (hnames : Named names) :
      components (['/'].intercalate (names.map String.toList)) = names := by
    induction names with
    | nil => rfl
    | cons name names ih =>
        obtain ⟨hempty, hdot, _, hslash⟩ := hnames name List.mem_cons_self
        have hname := components_name hempty hdot hslash
        have hrest := ih fun other hmem =>
          hnames other (List.mem_cons_of_mem _ hmem)
        cases names with
        | nil => simpa using hname
        | cons next names =>
            rw [List.map_cons, List.map_cons, List.intercalate_cons_cons,
              List.append_assoc, List.singleton_append, components_slash,
              hname, ← List.map_cons, hrest]
            rfl
  have hfront := components_slash [] (['/'].intercalate (p.map String.toList))
  rw [List.nil_append, components_nil, List.nil_append, hslash p h] at hfront
  exact hfront

theorem components_rdropWhile (text : List Char) :
    components (text.rdropWhile (· == '/')) = components text := by
  induction text using List.reverseRecOn with
  | nil => rfl
  | append_singleton text c ih =>
      by_cases hc : c = '/'
      · have hslash : (c == '/') = true := by simpa using hc
        rw [List.rdropWhile_concat_pos (· == '/') text c hslash, ih, hc,
          components_slash, components_nil, List.append_nil]
      · rw [List.rdropWhile_concat_neg _ _ _ (by simpa using hc)]

theorem intercalate_snoc {A : Type} (sep first last : List A)
    (others : List (List A)) :
    sep.intercalate (first :: others ++ [last]) =
      sep.intercalate (first :: others) ++ (sep ++ last) := by
  induction others generalizing first with
  | nil => simp
  | cons second others ih =>
      have hrest := ih second
      rw [List.cons_append] at hrest
      rw [List.cons_append, List.cons_append, List.intercalate_cons_cons, hrest,
        List.intercalate_cons_cons]
      simp only [List.append_assoc]

theorem pathText_snoc (p : Path) (name : String) :
    ∃ text, pathText (p ++ [name]) = text ++ '/' :: name.toList ∧
      components text = components (pathText p) := by
  cases p with
  | nil => exact ⟨[], by simp [pathText], rfl⟩
  | cons first p =>
      refine ⟨pathText (first :: p), ?_, rfl⟩
      unfold pathText
      rw [List.map_append, List.map_singleton, List.map_cons, intercalate_snoc]
      rfl

namespace FileSystem

variable (fs : FileSystem)

/-- A path without links; or a text from a link on that is met within
itself. -/
inductive Real where
  | done (p : Path)
  | stuck (text : List Char)
deriving DecidableEq

/-- One piece after the other; `within` are the links that are being resolved.
-/
def walkReal (follow : List Path → Path → List String → Real)
    (within : List Path) : Path → List String → Real
  | here, [] => .done here
  | here, name :: rest =>
      if name = "" ∨ name = "." then walkReal follow within here rest
      else if name = ".." then walkReal follow within here.dropLast rest
      else
        match fs.node? (here ++ [name]) with
        | some (.link target) =>
            if here ++ [name] ∈ within then
              .stuck (joinText (pathText (here ++ [name])) (restText rest))
            else
              match follow ((here ++ [name]) :: within) (start here target)
                  (pieces target.toList) with
              | .done mid => walkReal follow within mid rest
              | .stuck text => .stuck (joinText text (restText rest))
        | _ => walkReal follow within (here ++ [name]) rest

/-- `_joinrealpath`, up to Python 3.12; one more level than links at most. -/
def joinReal : Nat → List Path → Path → List String → Real
  | 0 => fs.walkReal fun _ here _ => .stuck (pathText here)
  | depth + 1 => fs.walkReal (joinReal depth)

def resolveText (text : List Char) : Real :=
  fs.joinReal fs.entries.length [] [] (pieces text)

/-- `os.path.realpath` of an absolute path. -/
def realpathText (text : List Char) : List Char :=
  match fs.resolveText text with
  | .done p => pathText p
  | .stuck text => normpath text

variable {fs}

theorem not_mem_splitOn {text piece : List Char}
    (h : piece ∈ text.splitOn '/') : '/' ∉ piece := by
  induction text generalizing piece with
  | nil =>
      rw [List.mem_singleton.mp h]
      exact List.not_mem_nil
  | cons c text ih =>
      rw [List.splitOn_cons_eq_if_modifyHead] at h
      split at h
      · rcases List.mem_cons.mp h with rfl | h
        · exact List.not_mem_nil
        · exact ih h
      · next hc =>
          cases hpieces : text.splitOn '/' with
          | nil => exact absurd hpieces (List.splitOn_ne_nil '/' text)
          | cons first others =>
              rw [hpieces, List.modifyHead_cons] at h
              rw [hpieces] at ih
              rcases List.mem_cons.mp h with rfl | h
              · have hne : '/' ≠ c := fun heq => hc (by simp [← heq])
                exact List.not_mem_cons_of_ne_of_not_mem hne
                  (ih List.mem_cons_self)
              · exact ih (List.mem_cons_of_mem first h)

theorem slash_not_mem_pieces {text : List Char} :
    ∀ name ∈ pieces text, '/' ∉ name.toList := by
  intro name h
  obtain ⟨piece, hpiece, rfl⟩ := List.mem_map.mp h
  rw [String.toList_ofList]
  exact not_mem_splitOn hpiece

/-- Resolved, and made of ordinary names. -/
def Clean (fs : FileSystem) (p : Path) : Prop := fs.Resolved p ∧ Named p

theorem clean_nil : fs.Clean [] :=
  ⟨resolved_nil, fun _ hmem => nomatch hmem⟩

theorem Clean.above {p q : Path} (h : fs.Clean p) (hq : q <+: p) :
    fs.Clean q :=
  ⟨h.1.above hq, fun name hmem => h.2 name (hq.subset hmem)⟩

theorem walkReal_clean {follow : List Path → Path → List String → Real}
    (hfollow : ∀ {within here rest mid}, fs.Clean here →
      (∀ name ∈ rest, '/' ∉ name.toList) →
      follow within here rest = .done mid → fs.Clean mid)
    {within : List Path} {here mid : Path} {rest : List String}
    (h : fs.Clean here) (hrest : ∀ name ∈ rest, '/' ∉ name.toList)
    (hwalk : fs.walkReal follow within here rest = .done mid) :
    fs.Clean mid := by
  induction rest generalizing here with
  | nil =>
      cases hwalk
      exact h
  | cons name rest ih =>
      have hothers : ∀ name ∈ rest, '/' ∉ name.toList :=
        fun other hmem => hrest other (List.mem_cons_of_mem _ hmem)
      rw [walkReal] at hwalk
      split at hwalk
      · exact ih h hothers hwalk
      · next hplain =>
          obtain ⟨hempty, hdot⟩ := not_or.mp hplain
          split at hwalk
          · exact ih (h.above (List.dropLast_prefix here)) hothers hwalk
          · next hup =>
              have hslash := hrest name List.mem_cons_self
              split at hwalk
              · next target _ =>
                  split at hwalk
                  · cases hwalk
                  · split at hwalk
                    · next out hout =>
                        have hstart : fs.Clean (start here target) := by
                          unfold start
                          split
                          · exact clean_nil
                          · exact h
                        exact ih (hfollow hstart slash_not_mem_pieces hout)
                          hothers hwalk
                    · cases hwalk
              · next hlink =>
                  exact ih ⟨h.1.snoc hup hlink,
                    Named.snoc h.2 hempty hdot hup hslash⟩ hothers hwalk

theorem joinReal_clean (depth : Nat) {within : List Path} {here mid : Path}
    {rest : List String} (h : fs.Clean here)
    (hrest : ∀ name ∈ rest, '/' ∉ name.toList)
    (hjoin : fs.joinReal depth within here rest = .done mid) :
    fs.Clean mid := by
  induction depth generalizing within here rest mid with
  | zero =>
      apply walkReal_clean _ h hrest hjoin
      intro _ _ _ _ _ _ hnone
      cases hnone
  | succ depth ih =>
      exact walkReal_clean (fun hhere hnames hmid => ih hhere hnames hmid) h
        hrest hjoin

theorem resolveText_clean {text : List Char} {p : Path}
    (h : fs.resolveText text = .done p) : fs.Clean p :=
  joinReal_clean _ clean_nil slash_not_mem_pieces h

/-- `advance`, where the last component need not be there. -/
def advanceNew (fs : FileSystem) (follow : Path → List String → Option Path) :
    Path → List String → Option Path
  | here, [] => some here
  | here, name :: rest =>
      if fs.node? here ≠ some .dir then none
      else if name = ".." then advanceNew fs follow here.dropLast rest
      else
        match fs.node? (here ++ [name]) with
        | none => if rest = [] then some (here ++ [name]) else none
        | some (.link target) =>
            follow (start here target) (parts target ++ rest)
        | some _ => advanceNew fs follow (here ++ [name]) rest

def locateNew (fs : FileSystem) :
    Nat → Path → List String → Option Path
  | 0 => fs.advanceNew fun _ _ => none
  | links + 1 => fs.advanceNew (locateNew fs links)

/-- Where a path is opened, or made if it is not there. -/
def opened (fs : FileSystem) (p : List String) : Option Path :=
  fs.locateNew 40 [] p

/-- No directory is replaced, and the one above is there. -/
def Room (fs : FileSystem) (p : Path) : Prop :=
  (p ≠ [] ∧ "" ∉ p ∧ "." ∉ p ∧ ".." ∉ p) ∧ fs.node? p ≠ some .dir ∧
    (p.dropLast = [] ∨ (p.dropLast, Node.dir) ∈ fs.entries)

instance (fs : FileSystem) (p : Path) : Decidable (fs.Room p) :=
  inferInstanceAs (Decidable (_ ∧ _ ∧ _))

theorem mem_put_of_dir {p q : Path} {node : Node} (hroom : fs.Room p)
    (h : (q, Node.dir) ∈ fs.entries) :
    (q, Node.dir) ∈ Keyed.put Prod.fst (p, node) fs.entries := by
  have hne : q ≠ p := by
    rintro rfl
    exact hroom.2.1 (node?_of_mem h)
  exact (Keyed.mem_put fs.nodup).mpr (Or.inr ⟨h, hne⟩)

/-- A new entry, or a new one in the place of a file or link. -/
def put (fs : FileSystem) (p : Path) (node : Node) : FileSystem :=
  if hroom : fs.Room p then
    { entries := Keyed.put Prod.fst (p, node) fs.entries
      nodup := Keyed.nodup_put fs.nodup
      ordinary := by
        intro entry hmem
        rcases (Keyed.mem_put fs.nodup).mp hmem with rfl | ⟨hmem, _⟩
        · exact hroom.1
        · exact fs.ordinary entry hmem
      below := by
        intro entry hmem
        rcases (Keyed.mem_put fs.nodup).mp hmem with rfl | ⟨hmem, _⟩
        · exact hroom.2.2.imp_right (mem_put_of_dir hroom)
        · exact (fs.below entry hmem).imp_right (mem_put_of_dir hroom) }
  else fs

/-- Directories stay, and no links are added. -/
structure Grows (fs after : FileSystem) : Prop where
  dirs : ∀ p, fs.node? p = some .dir → after.node? p = some .dir
  links : ∀ p target, after.node? p = some (.link target) →
    fs.node? p = some (.link target)

theorem Grows.refl (fs : FileSystem) : fs.Grows fs where
  dirs _ h := h
  links _ _ h := h

theorem Grows.trans {first second third : FileSystem}
    (h : first.Grows second) (h' : second.Grows third) :
    first.Grows third where
  dirs p hp := h'.dirs p (h.dirs p hp)
  links p target hp := h.links p target (h'.links p target hp)

theorem Grows.resolved {after : FileSystem} (h : fs.Grows after) {p : Path}
    (hp : fs.Resolved p) : after.Resolved p where
  physical q hq target hlink :=
    hp.physical q hq target (h.links q target hlink)
  clean := hp.clean

theorem node?_put {p q : Path} {node : Node} (hroom : fs.Room p) :
    (fs.put p node).node? q =
      if p = q then some node else fs.node? q := by
  unfold node? put
  rw [dif_pos hroom]
  by_cases hq : q = []
  · have hne : p ≠ q := by
      rw [hq]
      exact hroom.1.1
    rw [if_pos hq, if_pos hq, if_neg hne]
  · rw [if_neg hq, if_neg hq, Keyed.lookup_put]
    split <;> rfl

theorem grows_put (fs : FileSystem) (p : Path) {node : Node}
    (hlink : ∀ target, node ≠ .link target) : fs.Grows (fs.put p node) := by
  by_cases hroom : fs.Room p
  · constructor
    · intro q hq
      have hne : p ≠ q := by
        rintro rfl
        exact hroom.2.1 hq
      rw [node?_put hroom, if_neg hne, hq]
    · intro q target hq
      rw [node?_put hroom] at hq
      split at hq
      · exact absurd (Option.some.inj hq) (hlink target)
      · exact hq
  · unfold put
    rw [dif_neg hroom]
    exact Grows.refl fs

/-- A directory is made: the new file system, and where. -/
def mkdir (fs : FileSystem) (p : List String) : Option (FileSystem × Path) :=
  match fs.stat p.dropLast, p.getLast? with
  | some here, some name =>
      if name ≠ ".." ∧ fs.node? here = some .dir ∧
          fs.node? (here ++ [name]) = none then
        some (fs.put (here ++ [name]) .dir, here ++ [name])
      else none
  | _, _ => none

def isDir (fs : FileSystem) (p : List String) : Bool :=
  match fs.stat p with
  | some here => fs.node? here = some .dir
  | none => false

/-- `os.makedirs(p, exist_ok=True)`, last component first, with what was made.
-/
def makedirsUp (fs : FileSystem) : List String → FileSystem × List Path × Bool
  | [] => (fs, [], true)
  | name :: above =>
      let before :=
        if above = [] ∨ (fs.stat above.reverse).isSome then (fs, [], true)
        else makedirsUp fs above
      match before.1.mkdir (name :: above).reverse with
      | some (after, place) => (after, before.2.1 ++ [place], true)
      | none => (before.1, before.2.1, before.1.isDir (name :: above).reverse)

def makedirs (fs : FileSystem) (p : List String) :
    FileSystem × List Path × Bool :=
  fs.makedirsUp p.reverse

def writeText (fs : FileSystem) (p : List String) (content : String) :
    Option (FileSystem × Path) :=
  match fs.opened p with
  | some place =>
      if fs.node? place = some .dir then none
      else some (fs.put place (.file (some content)), place)
  | none => none

theorem mkdir_grows {p : List String} {place : Path} {after : FileSystem}
    (hmade : fs.mkdir p = some (after, place)) : fs.Grows after := by
  unfold mkdir at hmade
  split at hmade
  · split at hmade
    · cases hmade
      exact grows_put fs _ fun _ => nofun
    · cases hmade
  · cases hmade

theorem makedirsUp_grows (fs : FileSystem) (names : List String) :
    fs.Grows (fs.makedirsUp names).1 := by
  induction names with
  | nil => exact Grows.refl fs
  | cons name above ih =>
      have hbefore : fs.Grows (if above = [] ∨ (fs.stat above.reverse).isSome
          then (fs, [], true) else fs.makedirsUp above).1 := by
        split
        · exact Grows.refl fs
        · exact ih
      rw [makedirsUp]
      split
      · next after place hmade => exact hbefore.trans (mkdir_grows hmade)
      · exact hbefore

theorem writeText_grows {p : List String} {place : Path} {content : String}
    {after : FileSystem}
    (hmade : fs.writeText p content = some (after, place)) :
    fs.Grows after := by
  unfold writeText at hmade
  split at hmade
  · split at hmade
    · cases hmade
    · cases hmade
      exact grows_put fs _ fun _ => nofun
  · cases hmade

theorem advanceNew_resolved {follow : Path → List String → Option Path}
    {here mid : Path} {rest : List String} (h : fs.Resolved (here ++ rest))
    (hfound : fs.advanceNew follow here rest = some mid) :
    mid = here ++ rest := by
  induction rest generalizing here with
  | nil =>
      cases hfound
      rw [List.append_nil]
  | cons name rest ih =>
      have hsplit : here ++ name :: rest = here ++ [name] ++ rest := by simp
      have hname : name ≠ ".." := by
        rintro rfl
        exact h.clean (by simp)
      rw [hsplit] at h
      have hlink := h.physical (here ++ [name]) (List.prefix_append _ _)
      rw [advanceNew] at hfound
      rw [hsplit]
      split at hfound
      · cases hfound
      · split at hfound
        · split at hfound
          · next hnil =>
              rw [hnil, List.append_nil]
              exact (Option.some.inj hfound).symm
          · cases hfound
        · next target hnode => exact absurd hnode (hlink target)
        · exact ih h hfound

theorem opened_resolved {p mid : Path} (h : fs.Resolved p)
    (hfound : fs.opened p = some mid) : mid = p := by
  have hadvance : fs.advanceNew (fs.locateNew 39) [] p = some mid := hfound
  exact advanceNew_resolved h hadvance

theorem mkdir_resolved {p place : Path} {after : FileSystem}
    (h : fs.Resolved p) (hmade : fs.mkdir p = some (after, place)) :
    place = p ∧ fs.node? p = none := by
  unfold mkdir at hmade
  split at hmade
  · next here name hhere hname =>
      have hplace : here = p.dropLast :=
        stat_resolved (h.above (List.dropLast_prefix p)) hhere
      have hpath : here ++ [name] = p := by
        rw [hplace]
        exact List.dropLast_append_getLast? name hname
      split at hmade
      · next hfree =>
          cases hmade
          rw [hpath] at hfree ⊢
          exact ⟨rfl, hfree.2.2⟩
      · cases hmade
  · cases hmade

theorem makedirsUp_resolved {names : List String}
    (h : fs.Resolved names.reverse) :
    ∀ place ∈ (fs.makedirsUp names).2.1,
      place <+: names.reverse ∧ fs.node? place ≠ some .dir := by
  induction names with
  | nil => exact fun _ hmem => nomatch hmem
  | cons name above ih =>
      have habove : above.reverse <+: (name :: above).reverse := by
        rw [List.reverse_cons]
        exact List.prefix_append _ _
      have hbefore : ∀ before : FileSystem × List Path × Bool,
          before = (if above = [] ∨ (fs.stat above.reverse).isSome
            then (fs, [], true) else fs.makedirsUp above) →
          fs.Grows before.1 ∧ ∀ place ∈ before.2.1,
            place <+: (name :: above).reverse ∧
              fs.node? place ≠ some .dir := by
        rintro before rfl
        split
        · exact ⟨Grows.refl fs, fun _ hmem => nomatch hmem⟩
        · have hplaces := ih (h.above habove)
          exact ⟨makedirsUp_grows fs above, fun place hmem =>
            ⟨(hplaces place hmem).1.trans habove, (hplaces place hmem).2⟩⟩
      obtain ⟨hgrows, hplaces⟩ := hbefore _ rfl
      rw [makedirsUp]
      split
      · next after place hmade =>
          obtain ⟨hplace, hfree⟩ := mkdir_resolved (hgrows.resolved h) hmade
          intro other hmem
          rcases List.mem_append.mp hmem with hmem | hmem
          · exact hplaces other hmem
          · rw [List.mem_singleton.mp hmem, hplace]
            refine ⟨List.prefix_refl _, fun hdir => ?_⟩
            rw [hgrows.dirs _ hdir] at hfree
            cases hfree
      · exact hplaces

theorem writeText_resolved {p place : Path} {content : String}
    {after : FileSystem} (h : fs.Resolved p)
    (hmade : fs.writeText p content = some (after, place)) : place = p := by
  unfold writeText at hmade
  split at hmade
  · next found hfound =>
      split at hmade
      · cases hmade
      · cases hmade
        exact opened_resolved h hfound
  · cases hmade

end FileSystem

end Files
