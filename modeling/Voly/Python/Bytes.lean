/-
The bytes of a text, and digests: a hash function that is known on a table of
texts.
-/
import Voly.Python.Text

namespace Python

/-- `text.encode("utf-8")`. -/
def utf8 (text : List Char) : List UInt8 :=
  text.flatMap String.utf8EncodeChar

theorem utf8_injective : Function.Injective utf8 := by
  intro text other h
  have hencode : text.utf8Encode = other.utf8Encode :=
    congrArg List.toByteArray h
  rw [← String.toByteArray_ofList, ← String.toByteArray_ofList,
    String.toByteArray_inj] at hencode
  exact String.ofList_injective hencode

theorem ofNat_ne_zero {n : Nat} (hpos : 0 < n) (hlt : n < 256) :
    (0 : UInt8) ≠ UInt8.ofNat n := by
  intro h
  have hn := congrArg UInt8.toNat h
  rw [UInt8.toNat_ofNat_of_lt' hlt] at hn
  exact absurd hn.symm (Nat.ne_of_gt hpos)

theorem marked_ne_zero (n : Nat) {size high : Nat} (hsize : 0 < size)
    (hhigh : 0 < high) (hsum : size + high ≤ 256) :
    (0 : UInt8) ≠ UInt8.ofNat (n % size + high) := by
  have hlt := Nat.mod_lt n hsize
  exact ofNat_ne_zero (by omega) (by omega)

theorem zero_mem_utf8EncodeChar {c : Char}
    (h : 0 ∈ String.utf8EncodeChar c) : c = Char.ofNat 0 := by
  have hfollow (n : Nat) : (0 : UInt8) ≠ UInt8.ofNat (n % 64 + 128) :=
    marked_ne_zero n (by decide) (by decide) (by decide)
  unfold String.utf8EncodeChar at h
  dsimp only at h
  split at h
  · next hlow =>
      by_cases hzero : c.val.toNat = 0
      · exact Char.ext (UInt32.toNat_inj.mp hzero)
      · have hne := ofNat_ne_zero (Nat.pos_of_ne_zero hzero)
          (Nat.lt_of_le_of_lt hlow (by decide))
        exact absurd (List.mem_singleton.mp h) hne
  · have htwo := @marked_ne_zero (c.val.toNat / 64) 32 192 (by decide)
      (by decide) (by decide)
    have hthree := @marked_ne_zero (c.val.toNat / 4096) 16 224 (by decide)
      (by decide) (by decide)
    have hfour := @marked_ne_zero (c.val.toNat / 262144) 8 240 (by decide)
      (by decide) (by decide)
    simp only [apply_ite (fun bytes : List UInt8 => 0 ∈ bytes), List.mem_cons,
      htwo, hthree, hfour, hfollow, List.not_mem_nil, or_self, ite_self] at h

theorem zero_not_mem_utf8 {text : List Char} (h : Char.ofNat 0 ∉ text) :
    (0 : UInt8) ∉ utf8 text := by
  intro hmem
  obtain ⟨c, hc, hzero⟩ := List.mem_flatMap.mp hmem
  exact h (zero_mem_utf8EncodeChar hzero ▸ hc)

/-- `data.decode("latin-1")`. -/
def latin1 (data : List UInt8) : List Char := data.map Char.ofUInt8

theorem latin1_injective : Function.Injective latin1 := by
  apply List.map_injective_iff.mpr
  intro byte other h
  exact UInt8.toUInt32_inj.mp (congrArg Char.val h)

def knownDigest (table : List (List Char × String)) (text : List Char) :
    String :=
  (table.lookup text).getD (String.ofList ('#' :: text))

/-- The digests of the table are marked off and differ from each other. -/
def ProperTable (table : List (List Char × String)) : Prop :=
  (∀ entry ∈ table, entry.2.toList.head? ≠ some '#') ∧
    ∀ entry ∈ table, ∀ other ∈ table, entry.2 = other.2 → entry.1 = other.1

instance (table : List (List Char × String)) :
    Decidable (ProperTable table) := by
  unfold ProperTable
  infer_instance

theorem mem_of_lookup {table : List (List Char × String)} {text : List Char}
    {digest : String} (h : table.lookup text = some digest) :
    (text, digest) ∈ table := by
  obtain ⟨before, after, hsplit, _⟩ := List.lookup_eq_some_iff.mp h
  rw [hsplit]
  exact List.mem_append_right _ List.mem_cons_self

theorem knownDigest_injective {table : List (List Char × String)}
    (h : ProperTable table) : Function.Injective (knownDigest table) := by
  intro text other heq
  have hmark (entry : List Char × String) (hentry : entry ∈ table)
      (tail : List Char) : entry.2 ≠ String.ofList ('#' :: tail) := by
    intro hsame
    apply h.1 entry hentry
    rw [hsame, String.toList_ofList]
    rfl
  unfold knownDigest at heq
  cases hone : table.lookup text with
  | none =>
      cases htwo : table.lookup other with
      | none =>
          rw [hone, htwo] at heq
          have hlist := congrArg String.toList heq
          simp only [Option.getD_none, String.toList_ofList] at hlist
          exact (List.cons.inj hlist).2
      | some digest =>
          rw [hone, htwo] at heq
          have hmem := mem_of_lookup htwo
          exact absurd heq.symm (hmark _ hmem text)
  | some digest =>
      have hmem := mem_of_lookup hone
      cases htwo : table.lookup other with
      | none =>
          rw [hone, htwo] at heq
          exact absurd heq (hmark _ hmem other)
      | some digest' =>
          rw [hone, htwo] at heq
          exact h.2 _ hmem _ (mem_of_lookup htwo) heq

end Python
