import Mathlib.Data.List.Infix
import ProviderWallet.Problem

namespace ProviderWallet.Problem

def Says (phrase s : String) : Prop :=
  ∃ part, part <:+: s.toList ∧ part.map Char.toLower = phrase.toList

theorem occurs_iff {phrase cs : List Char} : occurs phrase cs = true ↔ phrase <:+: cs := by
  induction cs with
  | nil => simp [occurs]
  | cons c cs ih =>
    rw [occurs, Bool.or_eq_true, List.isPrefixOf_iff_prefix, ih]
    exact List.infix_cons_iff.symm

theorem mentions_iff {phrase s : String} : mentions s phrase = true ↔ Says phrase s := by
  rw [mentions, occurs_iff, lower]
  constructor
  · rintro ⟨before, after, whole⟩
    obtain ⟨front, last, parts, written, -⟩ := List.map_eq_append_iff.mp whole.symm
    obtain ⟨before', part, rfl, -, said⟩ := List.map_eq_append_iff.mp written
    exact ⟨part, ⟨before', last, parts.symm⟩, said⟩
  · rintro ⟨part, ⟨before, after, whole⟩, said⟩
    rw [← whole, List.map_append, List.map_append, said]
    exact ⟨_, _, rfl⟩

/-- A mistake that users often make, for which there is a hint. -/
inductive Hint where
  | funds
  | conflict
  deriving DecidableEq, Repr

namespace Hint

def text : Hint → String
  | funds => "Insufficient funds: "
  | conflict => "Transaction conflict, another transaction used this nonce: "

theorem length_pos (hint : Hint) : 0 < hint.text.length := by
  cases hint <;> decide

theorem eq_of_length {hint other : Hint} (same : hint.text.length = other.text.length) :
    other = hint := by
  revert same
  cases hint <;> cases other <;> decide

/-- A text tells of the mistake. If it tells of several, the lack of funds comes first. -/
def Fits : Hint → String → Prop
  | funds, s => Says "insufficient funds" s
  | conflict, s => ¬ Says "insufficient funds" s ∧
      (Says "nonce too low" s ∨ Says "replacement transaction" s)

end Hint

def Shows (p : Problem) (hint : Hint) : Prop :=
  p.advice = hint.text ++ p.message

def within (doing : List String) (p : Problem) : Problem :=
  doing.foldr during p

variable {p : Problem}

theorem failure?_within (doing : List String) (p : Problem) :
    (p.within doing).failure? = p.failure? := by
  induction doing with
  | nil => rfl
  | cons step doing ih => exact ih

theorem outermost_within (doing : List String) (p : Problem) :
    (p.within doing).outermost = doing.head?.getD p.outermost := by
  cases doing <;> rfl

/-- What is said besides the message of a failure comes after it, and it is as long as no hint. -/
theorem advice_of_failure {f : Failure} (known : p.failure? = some f) :
    ∃ rest, p.advice = p.message ++ rest ∧ ∀ hint : Hint, rest.length ≠ hint.text.length := by
  rw [advice, known]
  cases f with
  | keyNotFound address task => exact ⟨_, rfl, by rintro ⟨⟩ <;> decide⟩
  | receiptTimeout hash seconds => exact ⟨_, rfl, by rintro ⟨⟩ <;> decide⟩
  | invalidAmount text => exact ⟨_, rfl, by rintro ⟨⟩ <;> decide⟩
  | _ => exact ⟨"", String.append_empty.symm, by rintro ⟨⟩ <;> decide⟩

/-- A failure of the wallet is shown without a hint. -/
theorem not_shows_of_failure {f : Failure} (known : p.failure? = some f) (hint : Hint) :
    ¬ p.Shows hint := by
  intro shows
  obtain ⟨rest, advice, sizes⟩ := advice_of_failure known
  rw [Shows, advice] at shows
  have lengths := congrArg String.length shows
  rw [String.length_append, String.length_append] at lengths
  exact sizes hint (by omega)

/-- A text that tells of the mistake has the hint in front, if no failure is behind it. -/
theorem shows_of_fits {hint : Hint} (known : p.failure? = none) (fits : hint.Fits p.outermost) :
    p.Shows hint := by
  rw [Shows, advice, known]
  cases hint with
  | funds =>
    have funds := mentions_iff.mpr fits
    exact if_pos funds
  | conflict =>
    obtain ⟨no_funds, conflict⟩ := fits
    rw [← mentions_iff] at no_funds
    rw [← mentions_iff, ← mentions_iff, ← Bool.or_eq_true] at conflict
    exact (if_neg no_funds).trans (if_pos conflict)

theorem advice_of_none (known : p.failure? = none)
    (none : ∀ hint : Hint, ¬ hint.Fits p.outermost) : p.advice = p.message := by
  have no_funds := none .funds
  have no_conflict := none .conflict
  simp only [Hint.Fits, ← mentions_iff] at no_funds no_conflict
  have neither := (not_and.mp no_conflict) no_funds
  rw [← Bool.or_eq_true] at neither
  rw [advice, known]
  exact (if_neg no_funds).trans (if_neg neither)

/-- A hint stands in front of the message exactly if no failure of the wallet is behind the problem
and the outermost text tells of the mistake. -/
theorem shows_iff {hint : Hint} :
    p.Shows hint ↔ p.failure? = none ∧ hint.Fits p.outermost := by
  refine ⟨fun shows => ?_, fun ⟨known, fits⟩ => shows_of_fits known fits⟩
  cases known : p.failure? with
  | some f => exact absurd shows (not_shows_of_failure known hint)
  | none =>
    refine ⟨rfl, ?_⟩
    by_cases told : ∃ other : Hint, other.Fits p.outermost
    · obtain ⟨other, fits⟩ := told
      have texts := congrArg String.length (shows.symm.trans (shows_of_fits known fits))
      rw [String.length_append, String.length_append, Nat.add_right_cancel_iff] at texts
      obtain rfl := Hint.eq_of_length texts
      exact fits
    · have plain := advice_of_none known fun other fits => told ⟨other, fits⟩
      have longer := congrArg String.length (plain.symm.trans shows)
      rw [String.length_append] at longer
      have some := hint.length_pos
      omega

/-- What was done comes before what went wrong, and only what comes first can call for a hint. -/
theorem shows_within_iff {hint : Hint} (doing : List String) (p : Problem) :
    (p.within doing).Shows hint ↔
      p.failure? = none ∧ hint.Fits (doing.head?.getD p.outermost) := by
  rw [shows_iff, failure?_within, outermost_within]

end ProviderWallet.Problem
