import Mathlib.Data.List.DropRight
import ProviderWallet.Text.Blank

namespace ProviderWallet.Text.Blank

/-- A character that ASCII shows is no blank. -/
theorem isBlank_shown {c : Char} (low : 33 ≤ c.toNat) (high : c.toNat ≤ 126) :
    isBlank c = false := by
  simp only [isBlank, Bool.or_eq_false_iff, Bool.and_eq_false_iff, decide_eq_false_iff_not,
    beq_eq_false_iff_ne]
  omega

/-- Blanks are cut off of the first part only if nothing is left of the second. -/
theorem trimEnd_append (front back : List Char) :
    trimEnd (front ++ back) =
      if trimEnd back = [] then trimEnd front else front ++ trimEnd back := by
  rw [trimEnd, trimEnd, trimEnd, List.reverse_append, List.dropWhile_append]
  simp only [List.isEmpty_iff, List.reverse_eq_nil_iff]
  split <;> simp

/-- Blanks at the end of a text are cut off, and nothing else. -/
theorem exists_blanks (cs : List Char) :
    ∃ blanks, cs = trimEnd cs ++ blanks ∧ ∀ c ∈ blanks, isBlank c = true :=
  ⟨cs.rtakeWhile isBlank, (List.rdropWhile_append_rtakeWhile ..).symm,
    fun _ => List.mem_rtakeWhile_imp⟩

theorem trimEnd_begins (cs : List Char) : trimEnd cs <+: cs := by
  obtain ⟨blanks, same, -⟩ := exists_blanks cs
  exact ⟨blanks, same.symm⟩

theorem trimEnd_blanks {cs : List Char} (blank : ∀ c ∈ cs, isBlank c = true) :
    trimEnd cs = [] := by
  have all : ∀ c ∈ cs.reverse, isBlank c = true := fun c among =>
    blank c (List.mem_reverse.mp among)
  rw [trimEnd, List.dropWhile_eq_nil_iff.mpr all, List.reverse_nil]

section none

variable {cs : List Char} (none : ∀ c ∈ cs, isBlank c = false)

include none

/-- A text without blanks has none at its ends. -/
theorem trimStart_eq : trimStart cs = cs := by
  cases cs with
  | nil => rfl
  | cons c cs => exact List.dropWhile_cons_of_neg (by simp [none c List.mem_cons_self])

theorem trimEnd_eq : trimEnd cs = cs := by
  have turned : cs.reverse.dropWhile isBlank = cs.reverse :=
    trimStart_eq fun c among => none c (List.mem_reverse.mp among)
  rw [trimEnd, turned, List.reverse_reverse]

theorem trim_eq : trim cs = cs := by
  rw [trim, trimStart_eq none, trimEnd_eq none]

end none

def Padded (cs core : List Char) : Prop :=
  ∃ before after, cs = before ++ core ++ after ∧ ∀ c ∈ before ++ after, isBlank c = true

/-- A text has nothing but blanks around what is left of it. -/
theorem padded_trim (cs : List Char) : Padded cs (trim cs) := by
  obtain ⟨after, same, blank⟩ := exists_blanks (trimStart cs)
  refine ⟨cs.takeWhile isBlank, after, ?_, ?_⟩
  · rw [List.append_assoc, trim, ← same, trimStart, List.takeWhile_append_dropWhile]
  · exact List.forall_mem_append.mpr ⟨fun _ => List.mem_takeWhile_imp, blank⟩

/-- What has no blanks of its own is left, whatever blanks are put around it. -/
theorem Padded.trim_eq {cs core : List Char} (padded : Padded cs core)
    (none : ∀ c ∈ core, isBlank c = false) : trim cs = core := by
  obtain ⟨before, after, rfl, blank⟩ := padded
  obtain ⟨blank_before, blank_after⟩ := List.forall_mem_append.mp blank
  have start : trimStart (before ++ core ++ after) = trimStart (core ++ after) := by
    rw [trimStart, trimStart, List.append_assoc, List.dropWhile_append_of_pos blank_before]
  rw [trim, start]
  cases core with
  | nil =>
    have nothing : trimStart after = [] := List.dropWhile_eq_nil_iff.mpr blank_after
    rw [List.nil_append, nothing]
    rfl
  | cons c core =>
    have stays : trimStart (c :: core ++ after) = c :: core ++ after :=
      List.dropWhile_cons_of_neg (by simp [none c List.mem_cons_self])
    rw [stays, trimEnd_append, if_pos (trimEnd_blanks blank_after), trimEnd_eq none]

end ProviderWallet.Text.Blank
