/-
A document whose keys were sorted, read with other texts of its atoms, and
sorted again in another order.
-/
import Voly.Python.JsonDoc

namespace Python

theorem Doc.induct {P : Doc → Prop} (atom : ∀ x, P (.atom x))
    (str : ∀ s, P (.str s))
    (list : ∀ items, (∀ item ∈ items, P item) → P (.list items))
    (dict : ∀ items, (∀ item ∈ items, P item.2) → P (.dict items)) (v : Doc) :
    P v :=
  @Doc.rec P (fun items => ∀ item ∈ items, P item)
    (fun items => ∀ item ∈ items, P item.2) (fun item => P item.2)
    atom str list dict (List.forall_mem_nil _)
    (fun _ _ hfirst hrest => List.forall_mem_cons.mpr ⟨hfirst, hrest⟩)
    (List.forall_mem_nil _)
    (fun _ _ hfirst hrest => List.forall_mem_cons.mpr ⟨hfirst, hrest⟩)
    (fun _ _ hvalue => hvalue) v

mutual

/-- The document with other texts of its atoms. -/
def Doc.mapAtoms (f : AtomText → AtomText) : Doc → Doc
  | .atom x => .atom (f x)
  | .str s => .str s
  | .list items => .list (Doc.mapItems f items)
  | .dict items => .dict (Doc.mapFields f items)

def Doc.mapItems (f : AtomText → AtomText) : List Doc → List Doc
  | [] => []
  | item :: rest => item.mapAtoms f :: Doc.mapItems f rest

def Doc.mapFields (f : AtomText → AtomText) :
    List (String × Doc) → List (String × Doc)
  | [] => []
  | (key, item) :: rest => (key, item.mapAtoms f) :: Doc.mapFields f rest

end

mutual

def Doc.atoms : Doc → List AtomText
  | .atom x => [x]
  | .str _ => []
  | .list items => Doc.atomsOfItems items
  | .dict items => Doc.atomsOfFields items

def Doc.atomsOfItems : List Doc → List AtomText
  | [] => []
  | item :: rest => item.atoms ++ Doc.atomsOfItems rest

def Doc.atomsOfFields : List (String × Doc) → List AtomText
  | [] => []
  | (_, item) :: rest => item.atoms ++ Doc.atomsOfFields rest

end

mutual

/-- The keys of every object of a document. -/
def Doc.objects : Doc → List (List String)
  | .atom _ => []
  | .str _ => []
  | .list items => Doc.objectsOfItems items
  | .dict items => items.map Prod.fst :: Doc.objectsOfFields items

def Doc.objectsOfItems : List Doc → List (List String)
  | [] => []
  | item :: rest => item.objects ++ Doc.objectsOfItems rest

def Doc.objectsOfFields : List (String × Doc) → List (List String)
  | [] => []
  | (_, item) :: rest => item.objects ++ Doc.objectsOfFields rest

end

theorem mapItems_eq_map (f : AtomText → AtomText) (items : List Doc) :
    Doc.mapItems f items = items.map (Doc.mapAtoms f) := by
  induction items with
  | nil => rfl
  | cons item rest ih => rw [Doc.mapItems, ih, List.map_cons]

theorem mapFields_eq_map (f : AtomText → AtomText)
    (items : List (String × Doc)) :
    Doc.mapFields f items =
      items.map fun item => (item.1, item.2.mapAtoms f) := by
  induction items with
  | nil => rfl
  | cons item rest ih => rw [Doc.mapFields, ih, List.map_cons]

theorem atoms_list (items : List Doc) :
    (Doc.list items).atoms = items.flatMap Doc.atoms := by
  change Doc.atomsOfItems items = _
  induction items with
  | nil => rfl
  | cons item rest ih => rw [Doc.atomsOfItems, ih, List.flatMap_cons]

theorem atoms_dict (items : List (String × Doc)) :
    (Doc.dict items).atoms = items.flatMap fun item => item.2.atoms := by
  change Doc.atomsOfFields items = _
  induction items with
  | nil => rfl
  | cons item rest ih => rw [Doc.atomsOfFields, ih, List.flatMap_cons]

theorem objects_list (items : List Doc) :
    (Doc.list items).objects = items.flatMap Doc.objects := by
  change Doc.objectsOfItems items = _
  induction items with
  | nil => rfl
  | cons item rest ih => rw [Doc.objectsOfItems, ih, List.flatMap_cons]

theorem objects_dict (items : List (String × Doc)) :
    (Doc.dict items).objects =
      items.map Prod.fst :: items.flatMap fun item => item.2.objects := by
  change _ :: Doc.objectsOfFields items = _
  congr 1
  induction items with
  | nil => rfl
  | cons item rest ih => rw [Doc.objectsOfFields, ih, List.flatMap_cons]

section Sorting

variable {le : String → String → Bool}

/-- The order of the fields by their keys. -/
def FieldLe (le : String → String → Bool) (a b : String × Doc) : Prop :=
  le a.1 b.1 = true

instance : DecidableRel (FieldLe le) :=
  fun a b => inferInstanceAs (Decidable (le a.1 b.1 = true))

theorem insertField_eq (field : String × Doc) (fields : List (String × Doc)) :
    insertField le field fields = fields.orderedInsert (FieldLe le) field := by
  induction fields with
  | nil => rfl
  | cons other rest ih =>
      rw [insertField, List.orderedInsert_cons, ih]
      rfl

theorem sortFields_eq (items : List (String × Doc)) :
    Doc.sortFields le items =
      (items.map fun item => (item.1, item.2.sortKeys le)).insertionSort
        (FieldLe le) := by
  induction items with
  | nil => rfl
  | cons item rest ih =>
      rw [Doc.sortFields, ih, insertField_eq, List.map_cons,
        List.insertionSort_cons]

theorem insertionSort_fields_iff (total : ∀ a b, le a b = true ∨ le b a = true)
    (trans : ∀ a b c, le a b = true → le b c = true → le a c = true)
    (fields : List (String × Doc)) (g : Doc → Doc) :
    (fields.map fun item => (item.1, g item.2)).insertionSort (FieldLe le) =
        fields ↔
      fields.Pairwise (FieldLe le) ∧ ∀ item ∈ fields, g item.2 = item.2 := by
  have : Std.Total (FieldLe le) := ⟨fun a b => total a.1 b.1⟩
  have : IsTrans _ (FieldLe le) := ⟨fun a b c => trans a.1 b.1 c.1⟩
  have hkeys : (fields.map fun item => (item.1, g item.2)).Pairwise
      (FieldLe le) ↔ fields.Pairwise (FieldLe le) := by
    rw [List.pairwise_map]
    rfl
  have hvalues : fields.map (fun item => (item.1, g item.2)) = fields ↔
      ∀ item ∈ fields, g item.2 = item.2 := by
    have hmap := @List.map_inj_left _ _ fields
      (fun item => (item.1, g item.2)) id
    rw [List.map_id] at hmap
    rw [hmap]
    exact forall₂_congr fun item _ => Prod.ext_iff.trans (and_iff_right rfl)
  constructor
  · intro h
    have hsorted : fields.Pairwise (FieldLe le) := by
      rw [← h]
      exact List.pairwise_insertionSort (FieldLe le) _
    rw [(hkeys.mpr hsorted).insertionSort_eq] at h
    exact ⟨hsorted, hvalues.mp h⟩
  · rintro ⟨hsorted, hfixed⟩
    rw [(hkeys.mpr hsorted).insertionSort_eq]
    exact hvalues.mpr hfixed

theorem pairwise_fields_iff {first : String → String → Bool}
    (antisymm : ∀ a b, first a b = true → first b a = true → a = b)
    (total : ∀ a b, first a b = true ∨ first b a = true)
    (trans : ∀ a b c, first a b = true → first b c = true → first a c = true)
    (refl : ∀ a, le a a = true) (items : List (String × Doc)) :
    (items.insertionSort (FieldLe first)).Pairwise (FieldLe le) ↔
      ∀ a ∈ items.map Prod.fst, ∀ b ∈ items.map Prod.fst,
        first a b = true → le a b = true := by
  have : Std.Total (FieldLe first) := ⟨fun a b => total a.1 b.1⟩
  have : IsTrans _ (FieldLe first) := ⟨fun a b c => trans a.1 b.1 c.1⟩
  have hsorted := List.pairwise_insertionSort (FieldLe first) items
  have hmem : ∀ item, item ∈ items.insertionSort (FieldLe first) ↔
      item ∈ items := fun _ => List.mem_insertionSort _
  constructor
  · intro h a ha b hb
    obtain ⟨x, hx, rfl⟩ := List.mem_map.mp ha
    obtain ⟨y, hy, rfl⟩ := List.mem_map.mp hb
    have hforward : (items.insertionSort (FieldLe first)).Pairwise
        fun x y => first x.1 y.1 = true → le x.1 y.1 = true := by
      apply h.imp
      intro x y hle _
      exact hle
    -- fields that are in order both ways have one key
    have hbackward : (items.insertionSort (FieldLe first)).Pairwise
        (flip fun x y => first x.1 y.1 = true → le x.1 y.1 = true) := by
      apply hsorted.imp
      intro x y hxy hyx
      rw [antisymm x.1 y.1 hxy hyx]
      exact refl y.1
    exact List.Pairwise.forall_of_forall_of_flip (fun x _ _ => refl x.1)
      hforward hbackward ((hmem x).mpr hx) ((hmem y).mpr hy)
  · intro h
    apply hsorted.imp_of_mem
    intro x y hx hy hle
    exact h x.1 (List.mem_map_of_mem ((hmem x).mp hx)) y.1
      (List.mem_map_of_mem ((hmem y).mp hy)) hle

/-- Read with other atoms and sorted in another order, a document stays iff
atoms and orders agree on it. -/
theorem sortKeys_mapAtoms_iff {first : String → String → Bool}
    (hfirst : ∀ a b, first a b = true → first b a = true → a = b)
    (firstTotal : ∀ a b, first a b = true ∨ first b a = true)
    (firstTrans : ∀ a b c,
      first a b = true → first b c = true → first a c = true)
    (total : ∀ a b, le a b = true ∨ le b a = true)
    (trans : ∀ a b c, le a b = true → le b c = true → le a c = true)
    (f : AtomText → AtomText) (v : Doc) :
    ((v.sortKeys first).mapAtoms f).sortKeys le = v.sortKeys first ↔
      (∀ x ∈ v.atoms, f x = x) ∧
        ∀ keys ∈ v.objects, ∀ a ∈ keys, ∀ b ∈ keys,
          first a b = true → le a b = true := by
  have hrefl (a : String) : le a a = true := or_self_iff.mp (total a a)
  induction v using Doc.induct with
  | atom x =>
      change Doc.atom (f x) = Doc.atom x ↔
        (∀ y ∈ [x], f y = y) ∧ ∀ keys ∈ [], _
      rw [Doc.atom.injEq, List.forall_mem_singleton]
      exact (and_iff_left (List.forall_mem_nil _)).symm
  | str s =>
      exact iff_of_true rfl ⟨List.forall_mem_nil _, List.forall_mem_nil _⟩
  | list items ih =>
      change Doc.list (Doc.sortItems le (Doc.mapItems f
        (Doc.sortItems first items))) = Doc.list (Doc.sortItems first items) ↔ _
      rw [Doc.list.injEq, sortItems_eq_map, mapItems_eq_map, sortItems_eq_map,
        List.map_map, List.map_map, List.map_inj_left, atoms_list,
        objects_list, List.forall_mem_flatMap, List.forall_mem_flatMap,
        ← forall₂_and]
      exact forall₂_congr ih
  | dict items ih =>
      change Doc.dict (Doc.sortFields le (Doc.mapFields f
        (Doc.sortFields first items))) =
          Doc.dict (Doc.sortFields first items) ↔ _
      have hvalues : (∀ item ∈ Doc.sortFields first items,
          (item.2.mapAtoms f).sortKeys le = item.2) ↔
          ∀ item ∈ items, ((item.2.sortKeys first).mapAtoms f).sortKeys le =
            item.2.sortKeys first := by
        rw [sortFields_eq]
        simp only [List.mem_insertionSort, List.forall_mem_map]
      have hsorted : (Doc.sortFields first items).Pairwise (FieldLe le) ↔
          ∀ a ∈ items.map Prod.fst, ∀ b ∈ items.map Prod.fst,
            first a b = true → le a b = true := by
        rw [sortFields_eq,
          pairwise_fields_iff hfirst firstTotal firstTrans hrefl, List.map_map]
        rfl
      rw [Doc.dict.injEq, sortFields_eq, mapFields_eq_map, List.map_map]
      refine Iff.trans (insertionSort_fields_iff total trans
        (Doc.sortFields first items) fun v => (v.mapAtoms f).sortKeys le) ?_
      rw [hsorted, hvalues, atoms_dict, objects_dict, List.forall_mem_cons,
        List.forall_mem_flatMap, List.forall_mem_flatMap, and_left_comm,
        ← forall₂_and]
      exact and_congr_right' (forall₂_congr ih)

end Sorting

end Python
