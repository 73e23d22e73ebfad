import Mathlib.Tactic.Ring
import ProviderWallet.Proofs.Spelling
import ProviderWallet.Quantity

namespace ProviderWallet

namespace Decimal

def AllDigits (cs : List Char) : Prop :=
  ∀ c ∈ cs, isDigit c = true

variable {cs ds : List Char} {width n : Nat}

theorem foldl_value (n : Nat) (cs : List Char) :
    cs.foldl (fun n c => n * 10 + digitValue c) n = n * 10 ^ cs.length + value cs := by
  induction cs generalizing n with
  | nil => simp [value]
  | cons c cs ih =>
    rw [value, List.foldl_cons, List.foldl_cons, ih, ih (0 * 10 + digitValue c), List.length_cons]
    ring

/-- Each place behind them makes digits worth ten times as much. -/
theorem value_append (cs ds : List Char) :
    value (cs ++ ds) = value cs * 10 ^ ds.length + value ds := by
  rw [value, List.foldl_append, foldl_value]
  rfl

theorem value_cons (c : Char) (cs : List Char) :
    value (c :: cs) = digitValue c * 10 ^ cs.length + value cs := by
  rw [value, List.foldl_cons, foldl_value, Nat.zero_mul, Nat.zero_add]

theorem digitValue_le {c : Char} (h : isDigit c = true) : digitValue c ≤ 9 := by
  simp only [isDigit, Bool.and_eq_true, decide_eq_true_eq] at h
  rw [digitValue]
  omega

/-- So many digits denote a number below that power of ten. -/
theorem value_lt (digits : AllDigits cs) : value cs < 10 ^ cs.length := by
  induction cs with
  | nil => exact Nat.one_pos
  | cons c cs ih =>
    have first := digitValue_le (digits c List.mem_cons_self)
    have rest := ih fun d among => digits d (List.mem_cons_of_mem c among)
    rw [value_cons, List.length_cons, Nat.pow_succ]
    have := Nat.mul_le_mul_right (10 ^ cs.length) first
    omega

theorem value_zeros (k : Nat) : value (List.replicate k '0') = 0 := by
  induction k with
  | zero => rfl
  | succ k ih =>
    have zero : digitValue '0' = 0 := rfl
    rw [List.replicate_succ, value_cons, ih, zero, Nat.zero_mul]

/-- Zeros in front make no difference. -/
theorem value_filled (width n : Nat) : value (filled width n) = n := by
  rw [filled, value_append, value_zeros, value_digits, Nat.zero_mul, Nat.zero_add]

theorem allDigits_digits (n : Nat) : AllDigits (digits n) :=
  fun _ => isDigit_of_mem

theorem AllDigits.append (h : AllDigits cs) (h' : AllDigits ds) : AllDigits (cs ++ ds) := by
  intro c among
  rcases List.mem_append.mp among with first | last
  · exact h c first
  · exact h' c last

theorem allDigits_zeros (k : Nat) : AllDigits (List.replicate k '0') := by
  intro c among
  rw [List.eq_of_mem_replicate among]
  rfl

theorem allDigits_filled (width n : Nat) : AllDigits (filled width n) :=
  (allDigits_zeros _).append (allDigits_digits n)

theorem AllDigits.ascii (h : AllDigits cs) : ∀ c ∈ cs, c.toNat < 128 := by
  intro c among
  have digit := h c among
  simp only [isDigit, Bool.and_eq_true, decide_eq_true_eq] at digit
  omega

theorem length_digits_le (positive : 0 < width) (small : n < 10 ^ width) :
    (digits n).length ≤ width := by
  induction n using digits.induct generalizing width with
  | case1 n one =>
    rw [digits, dif_pos one]
    exact positive
  | case2 n large ih =>
    rw [digits, dif_neg large, List.length_append, List.length_singleton]
    cases width with
    | zero => exact absurd positive (Nat.lt_irrefl 0)
    | succ width =>
      have rest : n / 10 < 10 ^ width := by
        rw [Nat.pow_succ] at small
        omega
      have some : 0 < width := by
        by_contra none
        rw [Nat.eq_zero_of_not_pos none] at rest
        omega
      exact Nat.succ_le_succ (ih some rest)

/-- A number with no more digits than there is room for fills the room. -/
theorem length_filled (positive : 0 < width) (small : n < 10 ^ width) :
    (filled width n).length = width := by
  have le := length_digits_le positive small
  rw [filled, List.length_append, List.length_replicate]
  omega

end Decimal

namespace Quantity

open Decimal

variable {cs : List Char}

/-- A digit as a byte. -/
theorem byte_of_digit {c : Char} (h : isDigit c = true) :
    let b := UInt8.ofNat c.toNat
    b ≠ 95 ∧ 48 ≤ b ∧ b ≤ 57 ∧ b.toNat - 48 = digitValue c := by
  simp only [isDigit, Bool.and_eq_true, decide_eq_true_eq] at h
  have same : (UInt8.ofNat c.toNat).toNat = c.toNat := by
    rw [UInt8.toNat_ofNat']
    omega
  simp only [ne_eq, ← UInt8.toNat_inj, UInt8.le_iff_toNat_le, same, digitValue]
  refine ⟨?_, h.1, h.2, trivial⟩
  change ¬ c.toNat = 95
  omega

/-- Digits go on with the number that was read before them, as long as it is a word. -/
theorem readFrom_digits (digits : AllDigits cs) {sofar : Nat} (fits : sofar < 2 ^ 256) :
    readFrom sofar (cs.map fun c => UInt8.ofNat c.toNat) =
      if sofar * 10 ^ cs.length + value cs < 2 ^ 256 then
        .ok (BitVec.ofNat 256 (sofar * 10 ^ cs.length + value cs))
      else .error .tooLarge := by
  induction cs generalizing sofar with
  | nil =>
    have same : sofar * 10 ^ ([] : List Char).length + value [] = sofar := by simp [value]
    rw [same, if_pos fits]
    rfl
  | cons c cs ih =>
    obtain ⟨noMark, low, high, byte⟩ := byte_of_digit (digits c List.mem_cons_self)
    have rest : AllDigits cs := fun d among => digits d (List.mem_cons_of_mem c among)
    have same : sofar * 10 ^ (c :: cs).length + value (c :: cs) =
        (sofar * 10 + digitValue c) * 10 ^ cs.length + value cs := by
      rw [value_cons, List.length_cons]
      ring
    rw [same, List.map_cons, readFrom, if_neg noMark, if_pos ⟨low, high⟩, byte]
    dsimp only
    by_cases large : Nat.pow 2 256 ≤ sofar * 10 + digitValue c
    · -- What is too large after some digits does not get smaller with more of them.
      have more : ¬ (sofar * 10 + digitValue c) * 10 ^ cs.length + value cs < 2 ^ 256 := by
        apply Nat.not_lt.mpr
        calc 2 ^ 256
          _ ≤ sofar * 10 + digitValue c := large
          _ ≤ (sofar * 10 + digitValue c) * 10 ^ cs.length :=
            Nat.le_mul_of_pos_right _ (Nat.pow_pos (by decide))
          _ ≤ _ := Nat.le_add_right _ _
      rw [if_pos large, if_neg more]
    · rw [if_neg large]
      exact ih rest (Nat.not_le.mp large)

/-- Digits are read as the number that they denote, if it is a word. -/
theorem read_digits (digits : AllDigits cs) :
    read (String.ofList cs) =
      if value cs < 2 ^ 256 then .ok (BitVec.ofNat 256 (value cs)) else .error .tooLarge := by
  have all := readFrom_digits digits (Nat.pow_pos (by decide) : 0 < 2 ^ 256)
  rw [Nat.zero_mul, Nat.zero_add] at all
  rw [read, Bytes.ofText_ascii digits.ascii, all]

end Quantity

end ProviderWallet
