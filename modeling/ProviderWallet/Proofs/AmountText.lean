import Mathlib.Algebra.Order.Field.Rat
import Mathlib.Tactic.FieldSimp
import Mathlib.Tactic.Positivity
import ProviderWallet.Amount
import ProviderWallet.Proofs.DecimalValue
import ProviderWallet.Proofs.RecordName

namespace ProviderWallet

theorem Decimal.AllDigits.not_blank {cs : List Char} (digits : AllDigits cs) :
    ∀ c ∈ cs, Text.Blank.isBlank c = false := by
  intro c among
  have digit := digits c among
  simp only [isDigit, Bool.and_eq_true, decide_eq_true_eq] at digit
  exact Text.Blank.isBlank_shown (by omega) (by omega)

namespace Amount

open Decimal
open Text

/-- A decimal number with digits before the point, after it, or both. The point may be missing
where nothing comes after it. -/
inductive Numeral : (text whole frac : List Char) → Prop where
  | whole {whole : List Char} (some : whole ≠ []) (digits : AllDigits whole) :
      Numeral whole whole []
  | point {whole : List Char} (some : whole ≠ []) (digits : AllDigits whole) :
      Numeral (whole ++ ['.']) whole []
  | frac {frac : List Char} (some : frac ≠ []) (digits : AllDigits frac) :
      Numeral ('.' :: frac) [] frac
  | both {whole frac : List Char} (some : whole ≠ []) (digits : AllDigits whole)
      (some' : frac ≠ []) (digits' : AllDigits frac) :
      Numeral (whole ++ '.' :: frac) whole frac

def worth (whole frac : List Char) : ℚ :=
  value whole + value frac / 10 ^ frac.length

variable {text whole frac cs : List Char}

theorem no_point (digits : AllDigits cs) : '.' ∉ cs :=
  fun among => absurd (digits '.' among) (by decide)

theorem splitPoint_point (none : '.' ∉ whole) (frac : List Char) :
    splitPoint (whole ++ '.' :: frac) = (whole, frac) := by
  induction whole with
  | nil => rfl
  | cons c cs ih =>
    obtain ⟨other, rest⟩ := List.ne_and_not_mem_of_not_mem_cons none
    rw [List.cons_append, splitPoint, if_neg other.symm, ih rest]

theorem splitPoint_plain (none : '.' ∉ whole) : splitPoint whole = (whole, []) := by
  induction whole with
  | nil => rfl
  | cons c cs ih =>
    obtain ⟨other, rest⟩ := List.ne_and_not_mem_of_not_mem_cons none
    rw [splitPoint, if_neg other.symm, ih rest]

theorem splitPoint_cases (cs : List Char) :
    cs = (splitPoint cs).1 ∧ (splitPoint cs).2 = [] ∨
      cs = (splitPoint cs).1 ++ '.' :: (splitPoint cs).2 := by
  induction cs with
  | nil => exact .inl ⟨rfl, rfl⟩
  | cons c cs ih =>
    by_cases point : c = '.'
    · right
      rw [splitPoint, if_pos point, point]
      rfl
    · rw [splitPoint, if_neg point]
      rcases ih with ⟨plain, none⟩ | split
      · exact .inl ⟨congrArg (c :: ·) plain, none⟩
      · exact .inr (congrArg (c :: ·) split)

/-- The texts of numbers are those that the point divides into digits, not both times none. -/
theorem numeral_iff : Numeral text whole frac ↔ splitPoint text = (whole, frac) ∧
    ¬ (whole = [] ∧ frac = []) ∧ AllDigits whole ∧ AllDigits frac := by
  have none : AllDigits [] := fun c among => nomatch among
  constructor
  · intro numeral
    cases numeral with
    | whole some digits =>
      exact ⟨splitPoint_plain (no_point digits), fun empty => some empty.1, digits, none⟩
    | point some digits =>
      exact ⟨splitPoint_point (no_point digits) [], fun empty => some empty.1, digits, none⟩
    | frac some digits =>
      exact ⟨splitPoint_point (no_point none) frac, fun empty => some empty.2, none, digits⟩
    | both some digits some' digits' =>
      exact ⟨splitPoint_point (no_point digits) frac, fun empty => some empty.1, digits, digits'⟩
  · rintro ⟨split, some, digits, digits'⟩
    have cases := splitPoint_cases text
    rw [split] at cases
    rcases cases with ⟨rfl, rfl⟩ | rfl
    · exact .whole (fun empty => some ⟨empty, rfl⟩) digits
    · by_cases first : whole = []
      · subst first
        exact .frac (fun empty => some ⟨rfl, empty⟩) digits'
      · by_cases last : frac = []
        · subst last
          exact .point first digits
        · exact .both first digits last digits'

/-- There is one way only to divide the text of a number at its point. -/
theorem Numeral.unique {whole' frac' : List Char} (h : Numeral text whole frac)
    (h' : Numeral text whole' frac') : whole' = whole ∧ frac' = frac := by
  have same := (numeral_iff.mp h').1.symm.trans (numeral_iff.mp h).1
  exact Prod.mk.inj same

/-- A number as a word, unless it is too large for one. -/
theorem checked_eq_some {n : Nat} {exceeds : Prop} [Decidable exceeds] {made v : Wei}
    (limit : exceeds ↔ 2 ^ 256 ≤ n) (low : made.toNat = n % 2 ^ 256) :
    (if exceeds then none else some made) = some v ↔ v.toNat = n := by
  have word := v.isLt
  split
  · rename_i large
    have large := limit.mp large
    constructor
    · intro none
      cases none
    · omega
  · rename_i fits
    have fits : n < 2 ^ 256 := Nat.not_le.mp fun large => fits (limit.mpr large)
    rw [Option.some.injEq, ← BitVec.toNat_inj, low, Nat.mod_eq_of_lt fits]
    exact eq_comm

theorem word?_eq_some (digits : AllDigits cs) {v : Wei} :
    word? cs = some v ↔ v.toNat = value cs := by
  rw [word?, Quantity.read_digits digits, apply_ite Except.toOption, ← ite_not]
  exact checked_eq_some Nat.not_lt (BitVec.toNat_ofNat _ _)

theorem times?_eq_some {a b c : Wei} : times? a b = some c ↔ c.toNat = a.toNat * b.toNat :=
  checked_eq_some decide_eq_true_iff (BitVec.toNat_mul _ _)

theorem plus?_eq_some {a b c : Wei} : plus? a b = some c ↔ c.toNat = a.toNat + b.toNat :=
  checked_eq_some decide_eq_true_iff (BitVec.toNat_add _ _)

theorem toNat_token : token.toNat = 10 ^ 18 := by
  decide

/-- The word that a number is, if it is not greater than some word. -/
theorem exists_word {n : Nat} {v : Wei} (le : n ≤ v.toNat) : ∃ w : Wei, w.toNat = n := by
  refine ⟨BitVec.ofNat 256 n, ?_⟩
  rw [BitVec.toNat_ofNat, Nat.mod_eq_of_lt (Nat.lt_of_le_of_lt le v.isLt)]

/-- The base units of a number of tokens, whatever the number of its digits. -/
theorem units?_eq_some (digits : AllDigits whole) (digits' : AllDigits frac) {v : Wei} :
    units? whole frac = some v ↔
      v.toNat = value whole * 10 ^ 18 + value frac * 10 ^ (18 - frac.length) := by
  have first : AllDigits (if whole = [] then ['0'] else whole) := by
    split
    · exact allDigits_zeros 1
    · exact digits
  have same : value (if whole = [] then ['0'] else whole) = value whole := by
    split
    · rename_i none
      rw [none]
      rfl
    · rfl
  have last : AllDigits (frac ++ List.replicate (places - frac.length) '0') :=
    digits'.append (allDigits_zeros _)
  have same' : value (frac ++ List.replicate (places - frac.length) '0') =
      value frac * 10 ^ (18 - frac.length) := by
    rw [value_append, value_zeros, List.length_replicate, Nat.add_zero, places]
  simp only [units?, Option.bind_eq_bind, Option.bind_eq_some_iff, word?_eq_some first,
    word?_eq_some last, times?_eq_some, plus?_eq_some, same, same', toNat_token]
  constructor
  · rintro ⟨tokens, read, rest, read', product, made, sum⟩
    rw [sum, made, read, read']
  · intro sum
    obtain ⟨product, made⟩ := exists_word (sum ▸ Nat.le_add_right _ _ :
      value whole * 10 ^ 18 ≤ v.toNat)
    obtain ⟨tokens, read⟩ := exists_word (made ▸ Nat.le_mul_of_pos_right _ (by decide) :
      value whole ≤ product.toNat)
    obtain ⟨rest, read'⟩ := exists_word (sum ▸ Nat.le_add_left _ _ :
      value frac * 10 ^ (18 - frac.length) ≤ v.toNat)
    exact ⟨tokens, read, rest, read', product, by rw [made, read], by rw [sum, made, read']⟩

/-- A number with at most 18 places is one of base units. -/
theorem worth_units (short : frac.length ≤ 18) : worth whole frac * 10 ^ 18 =
    ((value whole * 10 ^ 18 + value frac * 10 ^ (18 - frac.length) : ℕ) : ℚ) := by
  have cut : (10 : ℚ) ^ 18 = 10 ^ frac.length * 10 ^ (18 - frac.length) := by
    rw [← pow_add, Nat.add_sub_cancel' short]
  have positive : (10 : ℚ) ^ frac.length ≠ 0 := by positivity
  push_cast
  rw [worth, add_mul]
  congr 1
  rw [cut]
  field_simp

/-- A text is refused for its form if it is not a number with few enough places. -/
theorem refused_iff (split : splitPoint text = (whole, frac)) :
    ((whole = [] ∧ frac = []) ∨ !whole.all isDigit ∨ !frac.all isDigit ∨ places < frac.length) ↔
      ¬ (Numeral text whole frac ∧ frac.length ≤ 18) := by
  rw [numeral_iff, AllDigits, AllDigits, ← List.all_eq_true, ← List.all_eq_true, ← not_lt, places]
  simp only [split, true_and, Bool.not_eq_true', ← Bool.not_eq_true]
  tauto

theorem parse_eq_ok_iff {s : String} {v : Wei} : parse s = .ok v ↔
    ∃ whole frac, Numeral (Blank.trim s.toList) whole frac ∧ frac.length ≤ 18 ∧
      v.toNat = value whole * 10 ^ 18 + value frac * 10 ^ (18 - frac.length) := by
  rw [parse]
  rcases split : splitPoint (Blank.trim s.toList) with ⟨whole, frac⟩
  dsimp only
  by_cases accepted : Numeral (Blank.trim s.toList) whole frac ∧ frac.length ≤ 18
  · rw [if_neg fun refused => (refused_iff split).mp refused accepted]
    obtain ⟨numeral, short⟩ := accepted
    obtain ⟨-, -, digits, digits'⟩ := numeral_iff.mp numeral
    constructor
    · intro read
      refine ⟨whole, frac, numeral, short, (units?_eq_some digits digits').mp ?_⟩
      cases units : units? whole frac with
      | some amount =>
        rw [units] at read
        rw [Except.ok.inj read]
      | none =>
        rw [units] at read
        cases read
    · rintro ⟨whole', frac', numeral', -, sum⟩
      obtain ⟨rfl, rfl⟩ := numeral.unique numeral'
      rw [(units?_eq_some digits digits').mpr sum]
  · rw [if_pos ((refused_iff split).mpr accepted)]
    constructor
    · intro read
      cases read
    · rintro ⟨whole', frac', numeral, short, -⟩
      have same := split.symm.trans (numeral_iff.mp numeral).1
      obtain ⟨rfl, rfl⟩ := Prod.mk.inj same
      exact absurd ⟨numeral, short⟩ accepted

/-- There is no other reason to refuse an amount than its text. -/
theorem parse_ok_or_invalid (s : String) :
    (∃ v, parse s = .ok v) ∨ parse s = .error (.invalidAmount s) := by
  rw [parse]
  obtain ⟨whole, frac⟩ := splitPoint (Blank.trim s.toList)
  dsimp only
  split
  · exact .inr rfl
  · split
    · exact .inl ⟨_, rfl⟩
    · exact .inr rfl

/-- A text says a number of tokens that can be counted exactly and as one word. Blanks around it do
not count. -/
structure Stated (s : String) (whole frac : List Char) : Prop where
  numeral : Numeral (Blank.trim s.toList) whole frac
  short : frac.length ≤ 18
  fits : worth whole frac * 10 ^ 18 < 2 ^ 256

theorem parse_iff_stated {s : String} {v : Wei} : parse s = .ok v ↔
    ∃ whole frac, Stated s whole frac ∧ (v.toNat : ℚ) = worth whole frac * 10 ^ 18 := by
  rw [parse_eq_ok_iff]
  constructor
  · rintro ⟨whole, frac, numeral, short, sum⟩
    have counted : (v.toNat : ℚ) = worth whole frac * 10 ^ 18 := by rw [worth_units short, sum]
    refine ⟨whole, frac, ⟨numeral, short, ?_⟩, counted⟩
    rw [← counted]
    exact_mod_cast v.isLt
  · rintro ⟨whole, frac, stated, counted⟩
    rw [worth_units stated.short] at counted
    exact ⟨whole, frac, stated.numeral, stated.short, Nat.cast_injective counted⟩

theorem Stated.read {s : String} (stated : Stated s whole frac) : ∃ v, parse s = .ok v := by
  have fits := stated.fits
  rw [worth_units stated.short] at fits
  refine ⟨BitVec.ofNat 256 (value whole * 10 ^ 18 + value frac * 10 ^ (18 - frac.length)), ?_⟩
  refine parse_eq_ok_iff.mpr ⟨whole, frac, stated.numeral, stated.short, ?_⟩
  rw [BitVec.toNat_ofNat, Nat.mod_eq_of_lt (by exact_mod_cast fits)]

/-- A text is read as an amount exactly if it says a number of tokens, and as this number. Every
other text is refused, and the failure has it as it was given. -/
theorem parse_exact (s : String) :
    ((∃ v, parse s = .ok v) ↔ ∃ whole frac, Stated s whole frac) ∧
      (∀ v, parse s = .ok v ↔
        ∃ whole frac, Stated s whole frac ∧ (v.toNat : ℚ) = worth whole frac * 10 ^ 18) ∧
      (parse s = .error (.invalidAmount s) ↔ ¬ ∃ whole frac, Stated s whole frac) := by
  have read : (∃ v, parse s = .ok v) ↔ ∃ whole frac, Stated s whole frac := by
    constructor
    · rintro ⟨v, read⟩
      obtain ⟨whole, frac, stated, -⟩ := parse_iff_stated.mp read
      exact ⟨whole, frac, stated⟩
    · rintro ⟨whole, frac, stated⟩
      exact stated.read
  refine ⟨read, fun v => parse_iff_stated, ?_⟩
  rw [← read]
  constructor
  · rintro refused ⟨v, read⟩
    rw [refused] at read
    cases read
  · exact (parse_ok_or_invalid s).resolve_left

def Denotes (text : String) (q : ℚ) : Prop :=
  ∃ whole frac, Numeral text.toList whole frac ∧ q = worth whole frac

theorem Numeral.not_blank (h : Numeral text whole frac) : ∀ c ∈ text, Blank.isBlank c = false := by
  obtain ⟨split, -, digits, digits'⟩ := numeral_iff.mp h
  have cases := splitPoint_cases text
  rw [split] at cases
  intro c among
  rcases cases with ⟨rfl, -⟩ | rfl
  · exact digits.not_blank c among
  · rcases List.mem_append.mp among with first | last
    · exact digits.not_blank c first
    · rcases List.mem_cons.mp last with rfl | last
      · rfl
      · exact digits'.not_blank c last

/-- The product for the shown places is not too large for a word. -/
theorem toNat_scaled (w : Wei) :
    (w % token * BitVec.ofNat 256 (Nat.pow 10 shownPlaces)).toNat = w.toNat % 10 ^ 18 * 10 ^ 5 := by
  have factor : (BitVec.ofNat 256 (Nat.pow 10 shownPlaces)).toNat = 10 ^ 5 := by decide
  rw [BitVec.toNat_mul, BitVec.toNat_umod, toNat_token, factor]
  apply Nat.mod_eq_of_lt
  omega

theorem toNat_shownPart (w : Wei) : (shownPart w).toNat = w.toNat / 10 ^ 13 % 10 ^ 5 := by
  rw [shownPart, BitVec.toNat_udiv, toNat_scaled, toNat_token]
  omega

theorem toList_format {w : Wei} (some : w ≠ 0) : (format w).toList =
    digits (w.toNat / 10 ^ 18) ++ '.' :: filled 5 (w.toNat / 10 ^ 13 % 10 ^ 5) := by
  rw [format, if_neg some, String.toList_ofList, BitVec.toNat_udiv, toNat_token, toNat_shownPart,
    shownPlaces]

/-- What is shown of an amount says its whole tokens and, in at most five places, what is left of
the others. -/
theorem format_numeral (w : Wei) : ∃ frac,
    Numeral (format w).toList (digits (w.toNat / 10 ^ 18)) frac ∧ frac.length ≤ 5 ∧
      value frac * 10 ^ (18 - frac.length) = w.toNat / 10 ^ 13 % 10 ^ 5 * 10 ^ 13 := by
  by_cases zero : w = 0
  · subst zero
    have shown : (format 0).toList = digits (0 / 10 ^ 18) ++ '.' :: ['0'] := by
      rw [digits, dif_pos (by decide)]
      rfl
    refine ⟨['0'], ?_, by decide, rfl⟩
    rw [shown]
    exact .both (digits_ne_nil _) (allDigits_digits _) (List.cons_ne_nil _ _) (allDigits_zeros 1)
  · have length : (filled 5 (w.toNat / 10 ^ 13 % 10 ^ 5)).length = 5 :=
      length_filled (by decide) (Nat.mod_lt _ (by decide))
    refine ⟨filled 5 (w.toNat / 10 ^ 13 % 10 ^ 5), ?_, length.le, ?_⟩
    · rw [toList_format zero]
      refine .both (digits_ne_nil _) (allDigits_digits _) ?_ (allDigits_filled _ _)
      exact List.ne_nil_of_length_eq_add_one length
    · rw [value_filled, length]

/-- An amount that is shown is read back without what was cut off. -/
theorem parse_format (w : Wei) : ∃ v, parse (format w) = .ok v ∧
    v.toNat = w.toNat - w.toNat % 10 ^ 13 := by
  obtain ⟨frac, numeral, short, rest⟩ := format_numeral w
  obtain ⟨v, cut⟩ := exists_word (Nat.sub_le w.toNat (w.toNat % 10 ^ 13))
  have known : frac.length ≤ 18 := Nat.le_trans short (by decide)
  refine ⟨v, parse_eq_ok_iff.mpr ⟨digits (w.toNat / 10 ^ 18), frac, ?_, known, ?_⟩, cut⟩
  · rw [Blank.trim_eq numeral.not_blank]
    exact numeral
  · rw [value_digits, rest, cut]
    omega

/-- What is shown denotes the amount up to its fifth place. -/
theorem denotes_format (w : Wei) {q : ℚ} :
    Denotes (format w) q ↔ q = ((w.toNat / 10 ^ 13 : ℕ) : ℚ) / 10 ^ 5 := by
  obtain ⟨frac, numeral, short, rest⟩ := format_numeral w
  have shown :
      worth (digits (w.toNat / 10 ^ 18)) frac = ((w.toNat / 10 ^ 13 : ℕ) : ℚ) / 10 ^ 5 := by
    have units : worth (digits (w.toNat / 10 ^ 18)) frac * 10 ^ 18 = _ :=
      worth_units (Nat.le_trans short (by decide))
    have cut : value (digits (w.toNat / 10 ^ 18)) * 10 ^ 18 + value frac * 10 ^ (18 - frac.length) =
        w.toNat / 10 ^ 13 * 10 ^ 13 := by
      rw [value_digits, rest]
      omega
    rw [cut, Nat.cast_mul, Nat.cast_pow, Nat.cast_ofNat] at units
    rw [eq_div_iff (by positivity)]
    apply mul_right_cancel₀ (by positivity : (10 : ℚ) ^ 13 ≠ 0)
    rw [← units]
    ring
  constructor
  · rintro ⟨whole, frac', numeral', rfl⟩
    obtain ⟨rfl, rfl⟩ := numeral.unique numeral'
    exact shown
  · rintro rfl
    exact ⟨_, frac, numeral, shown.symm⟩

/-- Two amounts look the same if they are the same up to the shown places, and none of them is
zero unless the other one is. -/
theorem format_eq_iff {v w : Wei} : format v = format w ↔
    (v = 0 ↔ w = 0) ∧ v.toNat / 10 ^ 13 = w.toNat / 10 ^ 13 := by
  have long {u : Wei} (some : u ≠ 0) : format u ≠ format 0 := by
    intro same
    have length := congrArg (fun s => s.toList.length) same
    have places : (filled 5 (u.toNat / 10 ^ 13 % 10 ^ 5)).length = 5 :=
      length_filled (by decide) (Nat.mod_lt _ (by decide))
    have zero : (format 0).toList.length = 3 := rfl
    simp only [toList_format some, zero, List.length_append, List.length_cons, places] at length
    omega
  constructor
  · intro same
    refine ⟨⟨?_, ?_⟩, ?_⟩
    · rintro rfl
      by_contra some
      exact long some same.symm
    · rintro rfl
      by_contra some
      exact long some same
    · have denoted := (denotes_format v).mpr rfl
      rw [same, denotes_format] at denoted
      rw [div_left_inj' (by positivity)] at denoted
      exact_mod_cast denoted
  · rintro ⟨zero, same⟩
    by_cases none : v = 0
    · rw [none, zero.mp none]
    · have same' : v.toNat / 10 ^ 18 = w.toNat / 10 ^ 18 := by omega
      rw [← String.toList_inj, toList_format none, toList_format (none ∘ zero.mpr), same, same']

/-- What showing an amount does: it cuts off, and nothing else. -/
structure CutOff (w : Wei) : Prop where
  zero : w = 0 → format w = "0.0"
  digits : w ≠ 0 → ∃ whole frac, (format w).toList = whole ++ '.' :: frac ∧
    AllDigits whole ∧ whole ≠ [] ∧ (∀ rest, whole = '0' :: rest → rest = []) ∧
    value whole = w.toNat / 10 ^ 18 ∧ AllDigits frac ∧ frac.length = 5
  number : ∀ q, Denotes (format w) q ↔ q = ((w.toNat / 10 ^ 13 : ℕ) : ℚ) / 10 ^ 5
  -- Neither the product nor the number of the places is too large for its type.
  scaled : (w % token * BitVec.ofNat 256 (Nat.pow 10 shownPlaces)).toNat =
    w.toNat % 10 ^ 18 * 10 ^ 5
  part : (shownPart w).toNat < 2 ^ 64
  reread : ∃ v, parse (format w) = .ok v ∧ v.toNat = w.toNat - w.toNat % 10 ^ 13 ∧ v ≤ w ∧
    w.toNat - v.toNat < 10 ^ 13
  ordered : ∀ w', w ≤ w' → ∀ q q', Denotes (format w) q → Denotes (format w') q' → q ≤ q'

theorem format_cuts_off (w : Wei) : CutOff w where
  zero none := if_pos none
  digits some := by
    refine ⟨_, _, toList_format some, allDigits_digits _, digits_ne_nil _, ?_, value_digits _,
      allDigits_filled _ _, length_filled (by decide) (Nat.mod_lt _ (by decide))⟩
    intro rest zero
    rw [eq_zero_of_head zero] at zero
    rw [Decimal.digits, dif_pos (by decide)] at zero
    exact (List.cons.inj zero).2.symm
  number q := denotes_format w
  scaled := toNat_scaled w
  part := by
    rw [toNat_shownPart]
    omega
  reread := by
    obtain ⟨v, read, cut⟩ := parse_format w
    refine ⟨v, read, cut, ?_, ?_⟩
    · rw [BitVec.le_def, cut]
      exact Nat.sub_le _ _
    · omega
  ordered w' le q q' shown shown' := by
    rw [denotes_format] at shown shown'
    rw [shown, shown']
    have cut : w.toNat / 10 ^ 13 ≤ w'.toNat / 10 ^ 13 := Nat.div_le_div_right le
    gcongr

theorem dust_shown_below_token :
    (1 : Wei) ≤ token ∧ Denotes (format 1) 0 ∧ Denotes (format token) 1 ∧ (0 : ℚ) ≤ 1 := by
  have le : (1 : Wei) ≤ token := by decide
  have dust : Denotes (format 1) 0 := by
    have one : (1 : Wei).toNat = 1 := rfl
    rw [(format_cuts_off 1).number, one]
    norm_num
  have one : Denotes (format token) 1 := by
    rw [(format_cuts_off token).number, toNat_token]
    norm_num
  exact ⟨le, dust, one, (format_cuts_off 1).ordered token le 0 1 dust one⟩

end Amount

end ProviderWallet
