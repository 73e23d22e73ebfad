import Mathlib.Data.List.Forall2
import Mathlib.Data.List.Induction
import Mathlib.Data.Nat.Digits.Defs
import Mathlib.Tactic.Ring
import ProviderWallet.Proofs.RecordName

namespace ProviderWallet

theorem Bytes.toNat_cons (b : UInt8) (bytes : Bytes) :
    toNat (b :: bytes) = b.toNat * 256 ^ bytes.length + toNat bytes := by
  induction bytes using List.reverseRecOn with
  | nil => simp [toNat]
  | append_singleton bytes last ih =>
    rw [← List.cons_append, toNat_append_singleton, toNat_append_singleton, ih, List.length_append,
      List.length_singleton, Nat.pow_succ]
    ring

namespace Text.Hex

def Shows (c : Char) (n : Nat) : Prop :=
  "0123456789abcdef".toList[n]? = some c ∨ "0123456789ABCDEF".toList[n]? = some c

def Denotes (cs : List Char) (n : Nat) : Prop :=
  ∃ ds, List.Forall₂ Shows cs ds ∧ Nat.ofDigits 16 ds.reverse = n

variable {c : Char} {cs : List Char} {n : Nat}

theorem digit_shown : ∀ n < 16, Shows (digit n) n ∧ Shows (digit n).toUpper n := by
  unfold Shows
  decide

theorem shows_iff : Shows c n ↔ n < 16 ∧ (c = digit n ∨ c = (digit n).toUpper) := by
  constructor
  · intro shown
    have small : n < 16 := by
      rcases shown with lower | upper
      · exact (List.getElem?_eq_some_iff.mp lower).1
      · exact (List.getElem?_eq_some_iff.mp upper).1
    have cases : ∀ n < 16, "0123456789abcdef".toList[n]? = some (digit n) ∧
        "0123456789ABCDEF".toList[n]? = some (digit n).toUpper := by decide
    obtain ⟨lower, upper⟩ := cases n small
    rw [Shows, lower, upper, Option.some_inj, Option.some_inj] at shown
    exact ⟨small, shown.imp Eq.symm Eq.symm⟩
  · rintro ⟨small, rfl | rfl⟩
    · exact (digit_shown n small).1
    · exact (digit_shown n small).2

theorem Shows.small (h : Shows c n) : n < 16 :=
  (shows_iff.mp h).1

theorem digitValue?_small {b : UInt8} (value : digitValue? b = some n) : n < 16 := by
  simp only [digitValue?] at value
  grind

theorem isHexDigit_iff : IsHexDigit c ↔ ∃ n, Shows c n := by
  simp only [IsHexDigit, shows_iff]

/-- A digit counts for what it shows, in either case. -/
theorem charValue?_eq_some_iff : charValue? c = some n ↔ Shows c n := by
  rw [shows_iff]
  constructor
  · intro value
    have every : ∀ m < 128, ∀ n ∈ digitValue? (UInt8.ofNat m),
        n < 16 ∧ (m = (digit n).toNat ∨ m = (digit n).toUpper.toNat) := by decide
    rw [charValue?] at value
    split at value
    · rename_i ascii
      exact (every c.toNat ascii n value).imp_right
        (Or.imp Char.toNat_inj.mp Char.toNat_inj.mp)
    · cases value
  · have both : ∀ n < 16,
        charValue? (digit n) = some n ∧ charValue? (digit n).toUpper = some n := by
      decide
    rintro ⟨small, rfl | rfl⟩
    · exact (both n small).1
    · exact (both n small).2

theorem Shows.ascii (h : Shows c n) : c.toNat < 128 := by
  have value := charValue?_eq_some_iff.mpr h
  rw [charValue?] at value
  split at value
  · assumption
  · cases value

/-- The first byte of a character is a digit exactly if the character is one. -/
theorem digitValue?_encode {b : UInt8} {bytes : Bytes}
    (encoded : String.utf8EncodeChar c = b :: bytes) : digitValue? b = charValue? c := by
  rw [charValue?]
  split
  · rename_i ascii
    rw [Bytes.encode_ascii ascii] at encoded
    cases encoded
    rfl
  · rename_i large
    obtain ⟨b', bytes', encoded', high⟩ := Bytes.encode_other (Nat.le_of_not_lt large)
    rw [encoded] at encoded'
    cases encoded'
    rw [digitValue?, if_neg (by omega), if_neg (by omega), if_neg (by omega)]

/-- The bytes of a text are digits exactly if its characters are. -/
theorem forall₂_encode_iff {ds : List Nat} :
    List.Forall₂ (fun b d => digitValue? b = some d) (cs.flatMap String.utf8EncodeChar) ds ↔
      List.Forall₂ Shows cs ds := by
  induction cs generalizing ds with
  | nil => rw [List.flatMap_nil, List.forall₂_nil_left_iff, List.forall₂_nil_left_iff]
  | cons c cs ih =>
    rw [List.flatMap_cons]
    by_cases ascii : c.toNat < 128
    · have encoded := Bytes.encode_ascii ascii
      have value := digitValue?_encode encoded
      simp only [encoded, List.singleton_append, List.forall₂_cons_left_iff, value,
        charValue?_eq_some_iff, ih]
    · obtain ⟨b, bytes, encoded, -⟩ := Bytes.encode_other (Nat.le_of_not_lt ascii)
      have value := digitValue?_encode encoded
      have missing (n : Nat) : ¬ Shows c n := fun shown => ascii shown.ascii
      simp only [encoded, List.cons_append, List.forall₂_cons_left_iff, value,
        charValue?_eq_some_iff, missing, false_and, exists_false]

theorem ofDigits_reverse_pair (h l : Nat) (ds : List Nat) :
    Nat.ofDigits 16 (h :: l :: ds).reverse =
      (16 * h + l) * 16 ^ ds.length + Nat.ofDigits 16 ds.reverse := by
  rw [List.reverse_cons, List.reverse_cons, Nat.ofDigits_append, Nat.ofDigits_append,
    Nat.ofDigits_singleton, Nat.ofDigits_singleton, List.length_append, List.length_reverse,
    List.length_singleton, Nat.pow_succ]
  ring

/-- Bytes that are read are the number that the digits denote, two digits for each. -/
theorem of_decodeFrom {index : Nat} {text bytes : Bytes} (even : text.length % 2 ≠ 1)
    (read : decodeFrom index text = .ok bytes) :
    ∃ ds, List.Forall₂ (fun b d => digitValue? b = some d) text ds ∧
      ds.length = 2 * bytes.length ∧ Nat.ofDigits 16 ds.reverse = Bytes.toNat bytes := by
  induction index, text using decodeFrom.induct generalizing bytes with
  | case1 index high low rest wrong =>
    simp [decodeFrom, wrong] at read
  | case2 index high low rest h wrong first =>
    simp [decodeFrom, first, wrong] at read
  | case3 index high low rest h l second first fault failed ih =>
    simp [decodeFrom, first, second, failed] at read
  | case4 index high low rest h l second first bytes' later ih =>
    simp only [decodeFrom, first, second, later, Except.ok.injEq] at read
    subst read
    have even : rest.length % 2 ≠ 1 := by
      rw [List.length_cons, List.length_cons] at even
      omega
    obtain ⟨ds, digits, length, number⟩ := ih even later
    refine ⟨h :: l :: ds, .cons first (.cons second digits), ?_, ?_⟩
    · simp only [List.length_cons, length]
      omega
    · have small : (UInt8.ofNat (16 * h + l)).toNat = 16 * h + l := by
        have := digitValue?_small first
        have := digitValue?_small second
        rw [UInt8.toNat_ofNat']
        omega
      rw [ofDigits_reverse_pair, number, Bytes.toNat_cons, small, length, Nat.pow_mul]
  | case5 text index short =>
    rcases text with _ | ⟨high, _ | ⟨low, rest⟩⟩
    · cases read
      exact ⟨[], .nil, rfl, rfl⟩
    · exact absurd rfl even
    · exact absurd rfl (short high low rest)

/-- Digits in pairs are bytes. -/
theorem exists_decodeFrom {text : Bytes} {ds : List Nat}
    (digits : List.Forall₂ (fun b d => digitValue? b = some d) text ds) (index : Nat) :
    ∃ bytes, decodeFrom index text = .ok bytes := by
  induction index, text using decodeFrom.induct generalizing ds with
  | case1 index high low rest wrong =>
    obtain _ | ⟨first, -⟩ := digits
    rw [wrong] at first
    cases first
  | case2 index high low rest h wrong =>
    obtain _ | ⟨-, _ | ⟨second, -⟩⟩ := digits
    rw [wrong] at second
    cases second
  | case3 index high low rest h l second first fault failed ih =>
    obtain _ | ⟨-, _ | ⟨-, digits⟩⟩ := digits
    obtain ⟨bytes, read⟩ := ih digits
    rw [failed] at read
    cases read
  | case4 index high low rest h l second first bytes later ih =>
    exact ⟨UInt8.ofNat (16 * h + l) :: bytes, by simp only [decodeFrom, first, second, later]⟩
  | case5 text index short =>
    refine ⟨[], ?_⟩
    rcases text with _ | ⟨high, _ | ⟨low, rest⟩⟩
    · rfl
    · rfl
    · exact absurd rfl (short high low rest)

/-- Digits denote one number only. -/
theorem Denotes.unique {m : Nat} (h : Denotes cs n) (h' : Denotes cs m) : n = m := by
  obtain ⟨ds, shown, rfl⟩ := h
  obtain ⟨ds', shown', rfl⟩ := h'
  have one : Relator.RightUnique Shows := by
    intro c d d' first second
    rw [← charValue?_eq_some_iff] at first second
    exact Option.some.inj (first.symm.trans second)
  rw [List.right_unique_forall₂' one shown shown']

/-- A text that is read has two digits for each byte, and they denote the number of the bytes. -/
theorem of_decodeText {bytes : Bytes} (read : decodeText (String.ofList cs) = .ok bytes) :
    cs.length = 2 * bytes.length ∧ Denotes cs (Bytes.toNat bytes) := by
  rw [decodeText, Bytes.ofText_ofList, decode] at read
  split at read
  · cases read
  rename_i even
  obtain ⟨ds, digits, length, number⟩ := of_decodeFrom even read
  have shown := forall₂_encode_iff.mp digits
  exact ⟨shown.length_eq.trans length, ds, shown, number⟩

/-- Texts of pairs of digits are read. -/
theorem decodeText_iff {size : Nat} :
    (∃ bytes, decodeText (String.ofList cs) = .ok bytes ∧ bytes.length = size ∧
      Bytes.toNat bytes = n) ↔ cs.length = 2 * size ∧ Denotes cs n := by
  constructor
  · rintro ⟨bytes, read, rfl, rfl⟩
    exact of_decodeText read
  · rintro ⟨length, denotes⟩
    obtain ⟨ds, shown, -⟩ := id denotes
    have digits := forall₂_encode_iff.mpr shown
    obtain ⟨bytes, read⟩ := exists_decodeFrom digits 0
    have even : ¬ (cs.flatMap String.utf8EncodeChar).length % 2 = 1 := by
      rw [digits.length_eq, ← shown.length_eq]
      omega
    have decoded : decodeText (String.ofList cs) = .ok bytes := by
      rw [decodeText, Bytes.ofText_ofList, decode, if_neg even, read]
    obtain ⟨pairs, number⟩ := of_decodeText decoded
    exact ⟨bytes, decoded, by omega, number.unique denotes⟩

/-- So many digits denote a number below that power of sixteen. -/
theorem Denotes.lt (h : Denotes cs n) : n < 16 ^ cs.length := by
  obtain ⟨ds, shown, rfl⟩ := h
  have small : ∀ d ∈ ds.reverse, d < 16 := by
    intro d among
    obtain ⟨i, inside, rfl⟩ := List.getElem_of_mem (List.mem_reverse.mp among)
    exact (shown.get (shown.length_eq ▸ inside) inside).small
  have bound := Nat.ofDigits_lt_base_pow_length (by decide) small
  rwa [List.length_reverse, ← shown.length_eq] at bound

/-- The digits of bytes denote the number of the bytes. -/
theorem denotes_digits (bytes : Bytes) : Denotes (digits bytes) (Bytes.toNat bytes) :=
  (of_decodeText (decodeText_encode bytes)).2

theorem Denotes.isHexDigit (h : Denotes cs n) : ∀ c ∈ cs, IsHexDigit c := by
  obtain ⟨ds, shown, -⟩ := h
  intro c among
  obtain ⟨i, inside, rfl⟩ := List.getElem_of_mem among
  exact isHexDigit_iff.mpr ⟨ds.get ⟨i, shown.length_eq ▸ inside⟩, shown.get inside _⟩

/-- Any digits denote some number. -/
theorem exists_denotes (digits : ∀ c ∈ cs, IsHexDigit c) : ∃ n, Denotes cs n := by
  have exists_values : ∃ ds, List.Forall₂ Shows cs ds := by
    induction cs with
    | nil => exact ⟨[], .nil⟩
    | cons c cs ih =>
      obtain ⟨first, others⟩ := List.forall_mem_cons.mp digits
      obtain ⟨d, shows⟩ := isHexDigit_iff.mp first
      obtain ⟨ds, shown⟩ := ih others
      exact ⟨d :: ds, .cons shows shown⟩
  obtain ⟨ds, shown⟩ := exists_values
  exact ⟨_, ds, shown, rfl⟩

end Text.Hex

end ProviderWallet
