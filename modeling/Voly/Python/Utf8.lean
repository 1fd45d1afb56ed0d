/-
Decoding UTF-8 with replacement characters, byte by byte, also from the middle
of a text.
-/
import Mathlib.Data.List.DropRight

namespace Python

/-- The bits so far, the range of the next byte, and how many follow. -/
structure Pending where
  value : Nat
  low : Nat := 0x80
  high : Nat := 0xBF
  left : Nat
  lowest : 0x80 ≤ low := by decide
  highest : high ≤ 0xBF := by decide
  few : left ≤ 2 := by decide

inductive Utf8State where
  | start
  | pending (p : Pending)

/-- U+FFFD, in place of bytes that are no character. -/
def replacement : Char := '\uFFFD'

def leadByte (b : Nat) : List Char × Utf8State :=
  if b < 0x80 then ([Char.ofNat b], .start)
  else if 0xC2 ≤ b ∧ b ≤ 0xDF then
    ([], .pending { value := b - 0xC0, left := 0 })
  else if b = 0xE0 then ([], .pending { value := 0, low := 0xA0, left := 1 })
  else if b = 0xED then ([], .pending { value := 0xD, high := 0x9F, left := 1 })
  else if 0xE1 ≤ b ∧ b ≤ 0xEF then
    ([], .pending { value := b - 0xE0, left := 1 })
  else if b = 0xF0 then ([], .pending { value := 0, low := 0x90, left := 2 })
  else if b = 0xF4 then ([], .pending { value := 4, high := 0x8F, left := 2 })
  else if 0xF1 ≤ b ∧ b ≤ 0xF3 then
    ([], .pending { value := b - 0xF0, left := 2 })
  else ([replacement], .start)

/-- A further byte of a character that has begun, within its range. -/
def Pending.take (p : Pending) (b : Nat) : List Char × Utf8State :=
  let value := p.value * 64 + b % 64
  match h : p.left with
  | 0 => ([Char.ofNat value], .start)
  | left + 1 =>
      ([], .pending { value, left, few := by have := p.few; omega })

/-- What one byte adds.  One that cannot go on a character begins another. -/
def Utf8State.next (b : Nat) : Utf8State → List Char × Utf8State
  | start => leadByte b
  | pending p =>
      if p.low ≤ b ∧ b ≤ p.high then p.take b
      else (replacement :: (leadByte b).1, (leadByte b).2)

def Utf8State.decode : Utf8State → List UInt8 → List Char
  | start, [] => []
  | pending _, [] => [replacement]
  | state, b :: rest =>
      (state.next b.toNat).1 ++ (state.next b.toNat).2.decode rest

/-- `data.decode("utf-8", errors="replace")`. -/
def decodeUtf8 (data : List UInt8) : List Char := Utf8State.start.decode data

namespace Utf8State

theorem decode_cons (state : Utf8State) (b : UInt8) (rest : List UInt8) :
    state.decode (b :: rest) =
      (state.next b.toNat).1 ++ (state.next b.toNat).2.decode rest := by
  cases state <;> rfl

theorem decode_ascii {data : List UInt8} (h : ∀ b ∈ data, b.toNat < 0x80) :
    decodeUtf8 data = data.map fun b => Char.ofNat b.toNat := by
  induction data with
  | nil => rfl
  | cons b rest ih =>
      rw [List.forall_mem_cons] at h
      have hrest : Utf8State.start.decode rest = _ := ih h.2
      have hlead : leadByte b.toNat = ([Char.ofNat b.toNat], .start) := by
        rw [leadByte, if_pos h.1]
      rw [decodeUtf8, decode_cons, next, hlead, hrest]
      rfl

theorem decode_append (state : Utf8State) (front rest : List UInt8) :
    ∃ text, ∃ state' : Utf8State,
      state.decode (front ++ rest) = text ++ state'.decode rest := by
  induction front generalizing state with
  | nil => exact ⟨[], state, rfl⟩
  | cons b front ih =>
      obtain ⟨text, state', htext⟩ := ih (state.next b.toNat).2
      refine ⟨(state.next b.toNat).1 ++ text, state', ?_⟩
      rw [List.cons_append, decode_cons, htext, List.append_assoc]

theorem leadByte_of_continuation {b : Nat} (hlow : 0x80 ≤ b) (hhigh : b ≤ 0xBF) :
    leadByte b = ([replacement], .start) := by
  unfold leadByte
  repeat rw [if_neg (by omega)]

/-- The reading meets the one from the start after at most three bytes. -/
theorem decode_meets (state : Utf8State) (data : List UInt8) :
    ∃ text other rest, state.decode data = text ++ decodeUtf8 rest ∧
      decodeUtf8 data = other ++ decodeUtf8 rest ∧
      data.length ≤ rest.length + 3 := by
  cases state with
  | start => exact ⟨[], [], data, rfl, rfl, Nat.le_add_right _ _⟩
  | pending p =>
      have hstronger : ∃ text other rest,
          (pending p).decode data = text ++ decodeUtf8 rest ∧
          decodeUtf8 data = other ++ decodeUtf8 rest ∧
          data.length ≤ rest.length + (p.left + 1) := by
        induction data generalizing p with
        | nil => exact ⟨[replacement], [], [], rfl, rfl, Nat.zero_le _⟩
        | cons b data ih =>
            by_cases hb : p.low ≤ b.toNat ∧ b.toNat ≤ p.high
            · have hlead : leadByte b.toNat = ([replacement], .start) :=
                leadByte_of_continuation (p.lowest.trans hb.1)
                  (hb.2.trans p.highest)
              have hstart : decodeUtf8 (b :: data) =
                  replacement :: decodeUtf8 data := by
                rw [decodeUtf8, decode_cons, next, hlead]
                rfl
              rw [decode_cons, next, if_pos hb, hstart, Pending.take]
              split
              · exact ⟨[_], [replacement], data, rfl, rfl, by simp⟩
              · next left hleft =>
                  obtain ⟨text, other, rest, htext, hother, hlength⟩ := ih _
                  refine ⟨text, replacement :: other, rest, htext, ?_, ?_⟩
                  · rw [hother, List.cons_append]
                  · rw [List.length_cons, hleft]
                    exact Nat.succ_le_succ hlength
            · refine ⟨[replacement], [], b :: data, ?_, rfl, by omega⟩
              rw [decode_cons, next, if_neg hb, decodeUtf8, decode_cons]
              rfl
      obtain ⟨text, other, rest, htext, hother, hlength⟩ := hstronger
      have hfew := p.few
      exact ⟨text, other, rest, htext, hother, by omega⟩

/-- How many bytes of a character have been read at most. -/
def begun : Utf8State → Nat
  | start => 0
  | pending p => 3 - p.left

theorem leadByte_length (b : Nat) :
    (leadByte b).1.length = 1 ∧ (leadByte b).2 = .start ∨
      (leadByte b).1 = [] ∧ 1 ≤ (leadByte b).2.begun := by
  unfold leadByte
  repeat' split
  all_goals simp [begun]

theorem length_le_decode (state : Utf8State) (data : List UInt8) :
    data.length + state.begun ≤ 4 * (state.decode data).length := by
  induction data generalizing state with
  | nil =>
      cases state with
      | start => exact Nat.le_refl _
      | pending p =>
          have hbegun : (pending p).begun ≤ 3 := Nat.sub_le _ _
          have hone : ((pending p).decode []).length = 1 := rfl
          rw [hone, List.length_nil]
          omega
  | cons b data ih =>
      have hlead : data.length + 1 ≤ 4 * ((leadByte b.toNat).1 ++
          (leadByte b.toNat).2.decode data).length := by
        have hrest := ih (leadByte b.toNat).2
        rw [List.length_append]
        rcases leadByte_length b.toNat with ⟨hone, hstart⟩ | ⟨hnone, hbegun⟩
        · rw [hstart] at hrest ⊢
          omega
        · rw [hnone, List.length_nil]
          omega
      rw [decode_cons]
      cases state with
      | start => exact hlead
      | pending p =>
          rw [next]
          split
          · rw [Pending.take]
            split
            · have hrest := ih .start
              simp only [List.length_append, List.length_cons, List.length_nil,
                begun] at hrest ⊢
              omega
            · next left hleft =>
                have hrest := ih (.pending
                  { value := p.value * 64 + b.toNat % 64, left
                    few := by have := p.few; omega })
                have hfew := p.few
                simp only [List.nil_append, List.length_cons, begun] at hrest ⊢
                omega
          · have hbegun : (pending p).begun ≤ 3 := Nat.sub_le _ _
            simp only [List.cons_append, List.length_cons] at hlead ⊢
            omega

end Utf8State

theorem rtake_append {α : Type} {n : Nat} {rest : List α} (front : List α)
    (h : n ≤ rest.length) : (front ++ rest).rtake n = rest.rtake n := by
  rw [List.rtake, List.rtake, List.length_append, List.drop_append,
    List.drop_eq_nil_of_le (by omega), List.nil_append]
  congr 1
  omega

theorem rtake_decodeUtf8 (n : Nat) (front rest : List UInt8)
    (h : 4 * n ≤ rest.length) :
    (decodeUtf8 (front ++ rest)).rtake n = (decodeUtf8 rest).rtake n := by
  obtain ⟨text, state, hfront⟩ :=
    Utf8State.decode_append .start front rest
  obtain ⟨more, other, end_, hmore, hother, hlength⟩ :=
    Utf8State.decode_meets state rest
  have hchars := Utf8State.length_le_decode .start end_
  have hlong : n ≤ (decodeUtf8 end_).length := by
    change n ≤ (Utf8State.start.decode end_).length
    rw [Utf8State.begun] at hchars
    omega
  rw [hother, decodeUtf8, hfront, hmore, rtake_append _ (by simp; omega),
    rtake_append _ hlong, rtake_append _ hlong]

end Python
