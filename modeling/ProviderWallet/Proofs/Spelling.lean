import ProviderWallet.Decimal
import ProviderWallet.Text.Hex
import ProviderWallet.Text.Utf8

namespace ProviderWallet

namespace Bytes

/-- The bytes of a text are those of its characters. -/
theorem ofText_eq (s : String) : ofText s = s.toList.flatMap String.utf8EncodeChar := by
  have h : s.toUTF8 = s.toList.utf8Encode := String.utf8Encode_toList.symm
  rw [ofText, h, List.utf8Encode]
  simp

theorem ofText_ofList (cs : List Char) :
    ofText (String.ofList cs) = cs.flatMap String.utf8EncodeChar := by
  rw [ofText_eq, String.toList_ofList]

/-- A character of the first 128 is one byte. -/
theorem encode_ascii {c : Char} (h : c.toNat < 128) :
    String.utf8EncodeChar c = [UInt8.ofNat c.toNat] := by
  have small : c.val.toNat ≤ 0x7f := Nat.lt_succ_iff.mp h
  rw [String.utf8EncodeChar, if_pos small]
  rfl

/-- Any other starts with a byte that is none of the first 128 either. -/
theorem encode_other {c : Char} (large : 128 ≤ c.toNat) :
    ∃ b bytes, String.utf8EncodeChar c = b :: bytes ∧ 128 ≤ b.toNat := by
  have valid : c.val.toNat < 0xd800 ∨ 0xdfff < c.val.toNat ∧ c.val.toNat < 0x110000 := c.valid
  have more : ¬ c.val.toNat ≤ 0x7f := Nat.not_le_of_lt large
  rw [String.utf8EncodeChar, if_neg more]
  split
  · refine ⟨_, _, rfl, ?_⟩
    rw [UInt8.toNat_ofNat']
    omega
  · split <;> refine ⟨_, _, rfl, ?_⟩ <;> rw [UInt8.toNat_ofNat'] <;> omega

theorem ofText_ascii {cs : List Char} (h : ∀ c ∈ cs, c.toNat < 128) :
    ofText (String.ofList cs) = cs.map fun c => UInt8.ofNat c.toNat := by
  rw [ofText_ofList]
  induction cs with
  | nil => rfl
  | cons c cs ih =>
    have rest := ih fun d among => h d (List.mem_cons_of_mem _ among)
    rw [List.flatMap_cons, List.map_cons, rest, encode_ascii (h c List.mem_cons_self)]
    rfl

end Bytes

namespace Text.Utf8

theorem start_one {n : Nat} (h : n < 0x80) : start (UInt8.ofNat n) = .whole (Char.ofNat n) := by
  have small : n % 256 = n := by omega
  simp [start, UInt8.lt_iff_toNat_lt, small, h]

theorem start_two {n : Nat} (low : 0xc2 ≤ n) (high : n < 0xe0) :
    start (UInt8.ofNat n) = .part ⟨n - 0xc0, 1, 0x80, 0xbf⟩ := by
  have small : n % 256 = n := by omega
  have h1 : ¬ n < 0x80 := by omega
  have h2 : ¬ n < 0xc2 := by omega
  simp [start, UInt8.lt_iff_toNat_lt, small, h1, h2, high]

theorem start_three {n : Nat} (low : 0xe0 ≤ n) (high : n < 0xf0) :
    start (UInt8.ofNat n) =
      .part ⟨n - 0xe0, 2, if n = 0xe0 then 0xa0 else 0x80, if n = 0xed then 0x9f else 0xbf⟩ := by
  have small : n % 256 = n := by omega
  have h1 : ¬ n < 0x80 := by omega
  have h2 : ¬ n < 0xc2 := by omega
  have h3 : ¬ n < 0xe0 := by omega
  simp [start, UInt8.lt_iff_toNat_lt, ← UInt8.toNat_inj, small, h1, h2, h3, high]

theorem start_four {n : Nat} (low : 0xf0 ≤ n) (high : n < 0xf5) :
    start (UInt8.ofNat n) =
      .part ⟨n - 0xf0, 3, if n = 0xf0 then 0x90 else 0x80, if n = 0xf4 then 0x8f else 0xbf⟩ := by
  have small : n % 256 = n := by omega
  have h1 : ¬ n < 0x80 := by omega
  have h2 : ¬ n < 0xc2 := by omega
  have h3 : ¬ n < 0xe0 := by omega
  have h4 : ¬ n < 0xf0 := by omega
  simp [start, UInt8.lt_iff_toNat_lt, ← UInt8.toNat_inj, small, h1, h2, h3, h4, high]

theorem accepts_ofNat {p : Pending} {n : Nat} (low : p.low.toNat ≤ n) (high : n ≤ p.high.toNat) :
    p.accepts (UInt8.ofNat n) = true := by
  have top := p.high.toNat_lt
  have small : n % 256 = n := by omega
  simp [Pending.accepts, UInt8.le_iff_toNat_le, small, low, high]

inductive Completes (c : Char) : Pending → Bytes → Prop where
  | last {p : Pending} {b : UInt8} (last : p.missing = 1) (accepted : p.accepts b = true)
      (char : Char.ofNat (p.push b) = c) : Completes c p [b]
  | more {p : Pending} {b : UInt8} {bytes : Bytes} (more : p.missing ≠ 1)
      (accepted : p.accepts b = true)
      (rest : Completes c ⟨p.push b, p.missing - 1, 0x80, 0xbf⟩ bytes) :
      Completes c p (b :: bytes)

theorem push_ofNat (p : Pending) {n : Nat} (small : n < 0x100) :
    p.push (UInt8.ofNat n) = p.bits * 64 + (n - 0x80) := by
  have same : (UInt8.ofNat n).toNat = n := by
    rw [UInt8.toNat_ofNat']
    omega
  unfold Pending.push
  rw [same]

/-- The first byte of a character tells how many follow, and these complete it. -/
theorem encode_char (c : Char) :
    (∃ b, String.utf8EncodeChar c = [b] ∧ start b = .whole c) ∨
      ∃ b p bytes, String.utf8EncodeChar c = b :: bytes ∧ start b = .part p ∧
        Completes c p bytes := by
  have valid : c.val.toNat < 0xd800 ∨ 0xdfff < c.val.toNat ∧ c.val.toNat < 0x110000 := c.valid
  have same : Char.ofNat c.val.toNat = c := Char.ofNat_toNat c
  rw [String.utf8EncodeChar]
  generalize c.val.toNat = v at valid same
  -- A byte that is not the first of its character has six bits of it.
  have last (p : Pending) (one : p.missing = 1) (low : p.low.toNat ≤ v % 0x40 + 0x80)
      (high : v % 0x40 + 0x80 ≤ p.high.toNat) (bits : p.bits = v / 0x40) :
      Completes c p [UInt8.ofNat (v % 0x40 + 0x80)] := by
    refine .last one (accepts_ofNat low high) ?_
    refine (congrArg Char.ofNat ?_).trans same
    rw [push_ofNat p (by omega), bits]
    omega
  have more (p : Pending) (two : p.missing = 2) (low : p.low.toNat ≤ v / 0x40 % 0x40 + 0x80)
      (high : v / 0x40 % 0x40 + 0x80 ≤ p.high.toNat) (bits : p.bits = v / 0x40 / 0x40) :
      Completes c p [UInt8.ofNat (v / 0x40 % 0x40 + 0x80), UInt8.ofNat (v % 0x40 + 0x80)] := by
    refine .more (by omega) (accepts_ofNat low high) ?_
    rw [push_ofNat p (by omega), two, bits]
    exact last _ rfl (by simp) (by simp; omega) (by simp; omega)
  by_cases one : v ≤ 0x7f
  · rw [if_pos one]
    exact .inl ⟨_, rfl, by rw [start_one (by omega), same]⟩
  rw [if_neg one]
  by_cases two : v ≤ 0x7ff
  · rw [if_pos two]
    refine .inr ⟨_, _, _, rfl, start_two (by omega) (by omega), ?_⟩
    exact last _ rfl (by simp) (by simp; omega) (by simp; omega)
  rw [if_neg two]
  by_cases three : v ≤ 0xffff
  · rw [if_pos three]
    refine .inr ⟨_, _, _, rfl, start_three (by omega) (by omega), ?_⟩
    refine more _ rfl ?_ ?_ (by simp; omega)
    · dsimp only
      split <;> simp
      all_goals omega
    · dsimp only
      split <;> simp
      all_goals omega
  · rw [if_neg three]
    refine .inr ⟨_, _, _, rfl, start_four (by omega) (by omega), ?_⟩
    refine .more (by simp) (accepts_ofNat ?_ ?_) ?_
    · dsimp only
      split <;> simp
      all_goals omega
    · dsimp only
      split <;> simp
      all_goals omega
    · rw [push_ofNat _ (by omega)]
      exact more _ rfl (by simp) (by simp; omega) (by simp; omega)

theorem Completes.faultFrom_eq {c : Char} {p : Pending} {bytes : Bytes} (h : Completes c p bytes)
    (used index : Nat) (rest : Bytes) :
    ∃ next, faultFrom (some p) used index (bytes ++ rest) = faultFrom none 0 next rest := by
  induction h generalizing used index with
  | last last accepted char =>
    refine ⟨index + 1, ?_⟩
    rw [List.singleton_append, faultFrom, if_pos accepted, if_pos last]
  | more more accepted later ih =>
    obtain ⟨next, ends⟩ := ih (used + 1) (index + 1)
    refine ⟨next, ?_⟩
    rw [List.cons_append, faultFrom, if_pos accepted, if_neg more, ends]

theorem Completes.decodeFrom_eq {c : Char} {p : Pending} {bytes : Bytes} (h : Completes c p bytes)
    (rest : Bytes) : decodeFrom (some p) (bytes ++ rest) = c :: decodeFrom none rest := by
  induction h with
  | last last accepted char =>
    rw [List.singleton_append, decodeFrom, step, if_pos accepted, if_pos last, char]
    rfl
  | more more accepted later ih =>
    rw [List.cons_append, decodeFrom, step, if_pos accepted, if_neg more]
    exact ih

/-- A character is complete after its bytes. -/
theorem faultFrom_char (c : Char) (index : Nat) (rest : Bytes) :
    ∃ next, faultFrom none 0 index (String.utf8EncodeChar c ++ rest) =
      faultFrom none 0 next rest := by
  obtain ⟨b, bytes, first⟩ | ⟨b, p, bytes, whole, first, completes⟩ := encode_char c
  · refine ⟨index + 1, ?_⟩
    rw [bytes, List.singleton_append, faultFrom, first]
  · rw [whole, List.cons_append, faultFrom, first]
    exact completes.faultFrom_eq 1 (index + 1) rest

/-- A character is read from its bytes, whatever follows them. -/
theorem decodeFrom_char (c : Char) (rest : Bytes) :
    decodeFrom none (String.utf8EncodeChar c ++ rest) = c :: decodeFrom none rest := by
  obtain ⟨b, bytes, first⟩ | ⟨b, p, bytes, whole, first, completes⟩ := encode_char c
  · rw [bytes, List.singleton_append, decodeFrom, step, enter, first]
    rfl
  · rw [whole, List.cons_append, decodeFrom, step, enter, first]
    exact completes.decodeFrom_eq rest

/-- The bytes of a text have no fault. -/
theorem fault?_ofText (s : String) : fault? (Bytes.ofText s) = none := by
  have all (cs : List Char) (index : Nat) :
      faultFrom none 0 index (cs.flatMap String.utf8EncodeChar) = none := by
    induction cs generalizing index with
    | nil => rfl
    | cons c cs ih =>
      obtain ⟨next, h⟩ := faultFrom_char c index (cs.flatMap String.utf8EncodeChar)
      rw [List.flatMap_cons, h]
      exact ih next
  rw [fault?, Bytes.ofText_eq]
  exact all s.toList 0

/-- A text that is written as bytes loses nothing when it is read. -/
theorem decodeLossy_ofText (s : String) : decodeLossy (Bytes.ofText s) = s := by
  have all (cs : List Char) : decodeFrom none (cs.flatMap String.utf8EncodeChar) = cs := by
    induction cs with
    | nil => rfl
    | cons c cs ih => rw [List.flatMap_cons, decodeFrom_char, ih]
  rw [decodeLossy, Bytes.ofText_eq, all, String.ofList_toList]

end Text.Utf8

namespace Text.Hex

/-- The digits of numbers below sixteen are read as these numbers, by either reader. -/
theorem digit_read : ∀ n < 16, (digit n).toNat < 128 ∧
    digitValue? (UInt8.ofNat (digit n).toNat) = some n ∧
    digitValue? (UInt8.ofNat (digit n).toUpper.toNat) = some n := by
  decide

theorem digit_ascii {n : Nat} (h : n < 16) : (digit n).toNat < 128 :=
  (digit_read n h).1

theorem digitValue?_digit {n : Nat} (h : n < 16) :
    digitValue? (UInt8.ofNat (digit n).toNat) = some n :=
  (digit_read n h).2.1

theorem charValue?_digit {n : Nat} (h : n < 16) : charValue? (digit n) = some n := by
  rw [charValue?, if_pos (digit_ascii h), digitValue?_digit h]

theorem digits_cons (b : UInt8) (bytes : Bytes) :
    digits (b :: bytes) = digit (b.toNat / 16) :: digit (b.toNat % 16) :: digits bytes := rfl

theorem length_digits (bytes : Bytes) : (digits bytes).length = 2 * bytes.length := by
  induction bytes with
  | nil => rfl
  | cons b bytes ih =>
    rw [digits_cons]
    simp only [List.length_cons, ih]
    omega

/-- Every digit is that of a number below sixteen. -/
theorem exists_digit {bytes : Bytes} {c : Char} (h : c ∈ digits bytes) :
    ∃ n < 16, c = digit n := by
  obtain ⟨b, -, among⟩ := List.mem_flatMap.mp h
  have := b.toNat_lt
  rcases List.mem_cons.mp among with rfl | among
  · exact ⟨b.toNat / 16, by omega, rfl⟩
  · exact ⟨b.toNat % 16, by omega, List.mem_singleton.mp among⟩

theorem digits_ascii {bytes : Bytes} {c : Char} (h : c ∈ digits bytes) : c.toNat < 128 := by
  obtain ⟨n, small, rfl⟩ := exists_digit h
  exact digit_ascii small

/-- Two digits are read as the byte that they write. -/
theorem decodeFrom_digits (index : Nat) (bytes : Bytes) :
    decodeFrom index ((digits bytes).map fun c => UInt8.ofNat c.toNat) = .ok bytes := by
  induction bytes generalizing index with
  | nil => rfl
  | cons b bytes ih =>
    have small := b.toNat_lt
    have high := digitValue?_digit (show b.toNat / 16 < 16 by omega)
    have low := digitValue?_digit (show b.toNat % 16 < 16 by omega)
    have whole : 16 * (b.toNat / 16) + b.toNat % 16 = b.toNat := by omega
    rw [digits_cons, List.map_cons, List.map_cons, decodeFrom, high, low]
    simp only [ih, whole, UInt8.ofNat_toNat]

/-- Bytes survive being written as digits and read again. -/
theorem decodeText_encode (bytes : Bytes) : decodeText (encode bytes) = .ok bytes := by
  have even : ((digits bytes).map fun c => UInt8.ofNat c.toNat).length % 2 ≠ 1 := by
    rw [List.length_map, length_digits]
    omega
  rw [decodeText, encode, Bytes.ofText_ascii fun _ => digits_ascii, decode, if_neg even]
  exact decodeFrom_digits 0 bytes

end Text.Hex

namespace Decimal

theorem digit_read : ∀ n < 10, isDigit (digit n) = true ∧ digitValue (digit n) = n := by
  decide

theorem isDigit_digit {n : Nat} (h : n < 10) : isDigit (digit n) = true :=
  (digit_read n h).1

theorem value_append_singleton (cs : List Char) (c : Char) :
    value (cs ++ [c]) = value cs * 10 + digitValue c := by
  simp [value]

/-- A number survives being written and read again. -/
theorem value_digits (n : Nat) : value (digits n) = n := by
  induction n using digits.induct with
  | case1 n small =>
    rw [digits, dif_pos small]
    simp [value, (digit_read n small).2]
  | case2 n large ih =>
    rw [digits, dif_neg large, value_append_singleton, ih, (digit_read (n % 10) (by omega)).2]
    omega

theorem digits_ne_nil (n : Nat) : digits n ≠ [] := by
  rw [digits]
  split <;> simp

/-- Only zero is written with a zero in front. -/
theorem eq_zero_of_head {n : Nat} {cs : List Char} (h : digits n = '0' :: cs) : n = 0 := by
  induction n using digits.induct generalizing cs with
  | case1 n small =>
    rw [digits, dif_pos small] at h
    have zero : ∀ d < 10, digit d = '0' → d = 0 := by decide
    exact zero n small (List.cons.inj h).1
  | case2 n large ih =>
    rw [digits, dif_neg large] at h
    obtain ⟨c, ds, shown⟩ := List.exists_cons_of_ne_nil (digits_ne_nil (n / 10))
    rw [shown, List.cons_append] at h
    obtain ⟨rfl, -⟩ := List.cons.inj h
    have := ih shown
    omega

theorem isDigit_of_mem {n : Nat} {c : Char} (h : c ∈ digits n) : isDigit c = true := by
  induction n using digits.induct with
  | case1 n small =>
    rw [digits, dif_pos small, List.mem_singleton] at h
    rw [h, isDigit_digit small]
  | case2 n large ih =>
    rw [digits, dif_neg large, List.mem_append, List.mem_singleton] at h
    rcases h with earlier | rfl
    · exact ih earlier
    · exact isDigit_digit (by omega)

end Decimal

end ProviderWallet
