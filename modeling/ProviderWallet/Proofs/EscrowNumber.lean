import ProviderWallet.Proofs.AmountText
import ProviderWallet.Proofs.EscrowBody
import ProviderWallet.Proofs.NearestDouble

namespace ProviderWallet

open Binary64 (Within)
open Decimal (digits value AllDigits digitValue)
open Json (Numeral Part)
open Text

namespace Json

/-- A significand is made of as many digits as 64 bits can hold. -/
theorem significand_spec (m : Nat) (cs : List Char) : ∃ taken left, cs = taken ++ left ∧
    significand m cs = (m * 10 ^ taken.length + value taken, left) ∧
    (m ≤ maxWord → m * 10 ^ taken.length + value taken ≤ maxWord) ∧
    ∀ c left', left = c :: left' →
      maxWord < (m * 10 ^ taken.length + value taken) * 10 + digitValue c := by
  induction cs generalizing m with
  | nil =>
    refine ⟨[], [], rfl, ?_, ?_, ?_⟩
    · simp [significand, value]
    · simp [value]
    · rintro c left' ⟨⟩
  | cons c cs ih =>
    rw [significand]
    by_cases full : maxWord < m * 10 + digitValue c
    · refine ⟨[], c :: cs, rfl, ?_, ?_, ?_⟩
      · rw [if_pos full]
        simp [value]
      · simp [value]
      · rintro c' left' ⟨rfl, rfl⟩
        simpa [value] using full
    · obtain ⟨taken, left, rfl, read, fits, next⟩ := ih (m * 10 + digitValue c)
      have same : (m * 10 + digitValue c) * 10 ^ taken.length + value taken =
          m * 10 ^ (c :: taken).length + value (c :: taken) := by
        rw [Decimal.value_cons, List.length_cons]
        ring
      rw [if_neg full]
      rw [same] at read fits next
      exact ⟨c :: taken, left, rfl, read, fun _ => fits (Nat.le_of_not_lt full), next⟩

/-- What a number of more than 64 bits is cut off to. -/
theorem significand_digits {n : Nat} (large : maxWord < n) : ∃ m left,
    significand 0 (digits n) = (m, left) ∧ 2 ^ 60 ≤ m ∧ m ≤ maxWord ∧
    m * 10 ^ left.length ≤ n ∧ n < m * 10 ^ left.length + 10 ^ left.length ∧ 1 ≤ left.length := by
  obtain ⟨taken, left, split, read, fits, next⟩ := significand_spec 0 (digits n)
  rw [Nat.zero_mul, Nat.zero_add] at read fits next
  have least : value taken ≤ maxWord := fits (Nat.zero_le _)
  have all := Decimal.allDigits_digits n
  have whole : n = value taken * 10 ^ left.length + value left := by
    rw [← Decimal.value_append, ← split, Decimal.value_digits]
  rw [split] at all
  have rest : value left < 10 ^ left.length :=
    Decimal.value_lt fun c among => all c (List.mem_append_right _ among)
  cases left with
  | nil =>
    rw [List.length_nil] at whole rest
    omega
  | cons c left' =>
    have word : maxWord = 2 ^ 64 - 1 := rfl
    have digit := Decimal.digitValue_le (all c (List.mem_append_right _ List.mem_cons_self))
    have more := next c left' rfl
    refine ⟨value taken, c :: left', read, ?_, least, ?_, ?_, Nat.succ_pos _⟩ <;> omega

/-- What a significand of 60 bits and more comes to, scaled up by some places. -/
theorem scale_near {m k : Nat} (enough : 2 ^ 60 ≤ m) (small : m * 10 ^ k < 2 ^ 128) : ∃ x,
    scale ((Binary64.ofRatio m 1).getD Binary64.zero) k = some x ∧ 0 ≤ x.exponent ∧
      Within (7 / 2 ^ 54) x.toRat (m * 10 ^ k : ℕ) := by
  have one : 1 ≤ 10 ^ k := Nat.one_le_pow _ _ (by decide)
  have enough' : (2 : ℚ) ^ 60 ≤ m := by exact_mod_cast enough
  have one' : (1 : ℚ) ≤ 10 ^ k := by exact_mod_cast one
  have small' : (m : ℚ) * 10 ^ k < 2 ^ 128 := by exact_mod_cast small
  have most : (m : ℚ) ≤ m * 10 ^ k := le_mul_of_one_le_right (by positivity) one'
  have most' : (10 : ℚ) ^ k ≤ m * 10 ^ k := le_mul_of_one_le_left (by positivity) (by linarith)
  obtain ⟨x, made, near, -⟩ := Binary64.ofRatio_near
    (show (m : ℚ) / (1 : ℕ) = m by simp) (by linarith) (by linarith)
  obtain ⟨y, made', near', -⟩ := Binary64.ofRatio_near
    (show (Nat.pow 10 k : ℚ) / (1 : ℕ) = 10 ^ k by simp) (by linarith) (by linarith)
  have near_product := near.mul near' y.toRat_nonneg (by positivity) (by positivity)
  have half := near_product.mono (show _ ≤ 1 / 2 by norm_num) (by positivity)
  have least := half.ge
  have bound := half.le
  obtain ⟨z, scaled, near_scaled, whole⟩ : ∃ z, x.mul y = some z ∧ _ :=
    Binary64.mul_near (by linarith) (by linarith)
  refine ⟨z, ?_, whole (by linarith), ?_⟩
  · have few : k ≤ 308 := by
      by_contra many
      have := Nat.pow_le_pow_right (show 0 < 10 by decide) (show 39 ≤ k by omega)
      have := Nat.le_mul_of_pos_left (10 ^ k) (show 0 < m by omega)
      omega
    have positive : x.mantissa ≠ 0 := by
      intro none
      have zero : x.toRat = 0 := by simp [Binary64.toRat, none]
      have := near.ge
      rw [zero] at this
      linarith
    rw [made, Option.getD_some, scale, if_neg positive, if_neg (by omega), if_pos (by omega),
      Int.toNat_natCast, nearestPower, made']
    exact scaled
  · push_cast
    exact (near_scaled.trans near_product (by positivity)).mono (by norm_num) (by positivity)

def plain (n : Nat) : Numeral := ⟨false, digits n, [], none⟩

theorem double_plain {n : Nat} {left : List Char} {m : Nat}
    (read : significand 0 (digits n) = (m, left)) : (plain n).double =
      (scale ((Binary64.ofRatio m 1).getD Binary64.zero) left.length).map (.double false) := by
  simp [Numeral.double, plain, read, significand]

/-- A number of more than 64 bits is read as an integer that is near to it. -/
theorem value_plain_large {n : Nat} (large : maxWord < n) (small : n < 2 ^ 128) : ∃ x,
    (plain n).value = some (.double false x) ∧ 0 ≤ x.exponent ∧
      Within (1 / 2 ^ 51) x.toRat n := by
  obtain ⟨m, left, read, enough, -, low, high, -⟩ := significand_digits large
  obtain ⟨x, scaled, whole, near⟩ := scale_near enough (Nat.lt_of_le_of_lt low small)
  have cut : Within (1 / 2 ^ 60) (m * 10 ^ left.length : ℕ) n := by
    have part := (Nat.mul_le_mul_right (10 ^ left.length) enough).trans low
    have low' : ((m * 10 ^ left.length : ℕ) : ℚ) ≤ n := by exact_mod_cast low
    have high' : (n : ℚ) < (m * 10 ^ left.length : ℕ) + (10 ^ left.length : ℕ) := by
      exact_mod_cast high
    have part' : (2 : ℚ) ^ 60 * (10 ^ left.length : ℕ) ≤ n := by exact_mod_cast part
    rw [Within, abs_sub_comm, abs_of_nonneg (by linarith)]
    linarith
  refine ⟨x, ?_, whole, ?_⟩
  · have value : (plain n).value = (plain n).double := by
      have above : ¬ Decimal.value (plain n).whole ≤ maxWord := by
        rw [plain, Decimal.value_digits]
        exact Nat.not_le_of_lt large
      rw [Numeral.value, if_pos ⟨rfl, rfl⟩]
      simp only [if_neg above]
      exact if_neg (by simp [plain])
    rw [value, double_plain read, scaled]
    rfl
  · exact (near.trans cut (by positivity)).mono (by norm_num) (Nat.cast_nonneg n)

end Json

namespace Hub

open Json (plain)

def arrival (n : Nat) : Json.Number := (plain n).value.getD (.whole 0)

def arriving (n : Nat) : Nat :=
  match arrival n with
  | .whole i => i.toNat
  | .double _ x => x.toNat?.getD 0

variable {n : Nat}

theorem plain_word (small : n < 2 ^ 64) : (plain n).value = some (.whole n) :=
  Json.value_digits (Nat.le_pred_of_lt small)

theorem arriving_word (small : n < 2 ^ 64) : arriving n = n := by
  rw [arriving, arrival, plain_word small]
  rfl

/-- A number below `2 ^ 128` is read as a number, and what that stands for is near to it. -/
theorem arrival_spec (small : n < 2 ^ 128) : (plain n).value = some (arrival n) ∧
    amountOfNumber? (arrival n) =
      (if arriving n < 2 ^ 128 then some (BitVec.ofNat 256 (arriving n)) else none) ∧
    |(arriving n : ℚ) - n| ≤ n / 2 ^ 51 := by
  by_cases word : n < 2 ^ 64
  · have value := plain_word word
    have same : arrival n = .whole n := by rw [arrival, value, Option.getD_some]
    rw [arriving_word word, same, amountOfNumber?, if_pos small, if_pos (Int.natCast_nonneg n)]
    refine ⟨value, rfl, ?_⟩
    rw [sub_self, abs_zero]
    positivity
  · obtain ⟨x, value, whole, near⟩ :=
      Json.value_plain_large (show 2 ^ 64 - 1 < n by omega) small
    obtain ⟨amount, integer, exact⟩ := Binary64.toNat?_eq whole
    have same : arrival n = .double false x := by rw [arrival, value, Option.getD_some]
    have arrived : arriving n = amount := by rw [arriving, same]; simp [integer]
    rw [Within, ← exact, one_div_mul_eq_div] at near
    rw [arrived, same]
    refine ⟨value, ?_, near⟩
    simp only [amountOfNumber?, integer]
    rfl

/-- No amount but zero arrives as zero. -/
theorem arriving_eq_zero_iff (small : n < 2 ^ 128) : arriving n = 0 ↔ n = 0 := by
  obtain ⟨-, -, near⟩ := arrival_spec small
  constructor
  · intro none
    rw [none, Nat.cast_zero, zero_sub, abs_neg, abs_of_nonneg (Nat.cast_nonneg n)] at near
    by_contra some
    have positive : (0 : ℚ) < n := by exact_mod_cast Nat.pos_of_ne_zero some
    linarith
  · rintro rfl
    exact arriving_word (by decide)

theorem escrowOfBody_digits (small : n < 2 ^ 128) {body message : String}
    (gives : Gives body (.string (some (digits n))) message) :
    escrowOfBody body = .ok (Amount.format (BitVec.ofNat 256 n)) := by
  have all := Decimal.allDigits_digits n
  have trimmed : Blank.trimText (.ofList (digits n)) = .ofList (digits n) := by
    rw [Blank.trimText, String.toList_ofList, Blank.trim_eq all.not_blank]
  have fits : n < 2 ^ 256 := Nat.lt_trans small (by decide)
  rw [escrowOfBody_string gives, trimmed, Quantity.read_digits all, Decimal.value_digits,
    if_pos fits]

/-- A number in the body is shown as what it arrives as, unless it arrives too large. -/
theorem escrowOfBody_plain (small : n < 2 ^ 128) {body message : String}
    (gives : Gives body (.number (plain n)) message) :
    escrowOfBody body =
      if arriving n < 2 ^ 128 then .ok (Amount.format (BitVec.ofNat 256 (arriving n)))
      else .error (.hub ("invalid Frozen_Collateral " ++ String.ofList (arrival n).chars ++ " (" ++
        message ++ ")")) := by
  obtain ⟨value, amount, -⟩ := arrival_spec small
  rw [escrowOfBody_number gives value, amount]
  split_ifs <;> rfl

/-- What is shown of an amount of the hub, written as a text or as a number. -/
structure BothWays (n : Nat) : Prop where
  text : ∀ {body message}, Gives body (.string (some (digits n))) message →
    escrowOfBody body = .ok (Amount.format (BitVec.ofNat 256 n))
  number : ∀ {body message}, Gives body (.number (plain n)) message →
    escrowOfBody body =
      if arriving n < 2 ^ 128 then .ok (Amount.format (BitVec.ofNat 256 (arriving n)))
      else .error (.hub ("invalid Frozen_Collateral " ++ String.ofList (arrival n).chars ++ " (" ++
        message ++ ")"))
  word : n < 2 ^ 64 → arriving n = n
  near : |(arriving n : ℚ) - n| ≤ n / 2 ^ 51
  -- When both ways show the same.
  agree : ∀ {body body' message message'}, Gives body (.string (some (digits n))) message →
    Gives body' (.number (plain n)) message' → (escrowOfBody body = escrowOfBody body' ↔
      arriving n < 2 ^ 128 ∧ arriving n / 10 ^ 13 = n / 10 ^ 13)
  written : Gives (shortBody (Json.quoteChars (Decimal.text n))) (.string (some (digits n))) ""
  written' : Gives (shortBody (digits n)) (.number (plain n)) ""

/-- How an amount is shown that is written as a text, and how if it is written as a number. -/
theorem escrow_both_ways (small : n < 2 ^ 128) : BothWays n where
  text := escrowOfBody_digits small
  number := escrowOfBody_plain small
  word := arriving_word
  near := (arrival_spec small).2.2
  agree gives gives' := by
    rw [escrowOfBody_digits small gives, escrowOfBody_plain small gives']
    split_ifs with fits
    · have value : (BitVec.ofNat 256 n).toNat = n := by
        rw [BitVec.toNat_ofNat, Nat.mod_eq_of_lt (by omega)]
      have value' : (BitVec.ofNat 256 (arriving n)).toNat = arriving n := by
        rw [BitVec.toNat_ofNat, Nat.mod_eq_of_lt (by omega)]
      have zero : BitVec.ofNat 256 n = 0 ↔ BitVec.ofNat 256 (arriving n) = 0 := by
        rw [← BitVec.toNat_inj, ← BitVec.toNat_inj, value, value']
        exact (arriving_eq_zero_iff small).symm
      rw [Except.ok.injEq, Amount.format_eq_iff, value, value', and_iff_right zero,
        and_iff_right fits]
      exact eq_comm
    · constructor
      · rintro ⟨⟩
      · exact fun same => absurd same.1 fits
  written := shortBody_gives fun depth rest _ => by
    have read := Json.readPart_quoted (Decimal.text n) depth rest
    rwa [Decimal.text, String.toList_ofList] at read
  written' := shortBody_gives fun depth rest => Json.readPart_digits n depth

theorem hundred_tokens_both_ways : 10 ^ 20 < 2 ^ 128 ∧ BothWays (10 ^ 20) ∧
    escrowOfBody (shortBody (digits (10 ^ 20))) = .ok "100.00000" ∧
    escrowOfBody (shortBody (Json.quoteChars (Decimal.text (10 ^ 20)))) = .ok "100.00000" := by
  refine ⟨by decide, escrow_both_ways (by decide), ?_, ?_⟩ <;> decide +kernel

/-- A hundred tokens less one unit: the text is cut off as all amounts are, the number is rounded
up. -/
theorem hundred_tokens_too_many :
    escrowOfBody "\x7b\"data\":\x7b\"Frozen_Collateral\":\"99999999999999999999\"\x7d\x7d" =
      .ok "99.99999" ∧
    escrowOfBody "\x7b\"data\":\x7b\"Frozen_Collateral\":99999999999999999999\x7d\x7d" =
      .ok "100.00000" := by
  constructor <;> decide +kernel

end Hub

end ProviderWallet
