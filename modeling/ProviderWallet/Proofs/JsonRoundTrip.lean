import Mathlib.Tactic.Choose
import ProviderWallet.Proofs.JsonText

namespace ProviderWallet.Json

open Decimal (digits isDigit)
open Text

/-- A value of which nothing is lost: its numbers are natural and have 64 bits, the fields of its
objects are in the order of their names, and at most `depth` containers are inside each other. -/
inductive Plain : (depth : Nat) → Json → Prop where
  | null (depth : Nat) : Plain depth .null
  | bool (depth : Nat) (b : Bool) : Plain depth (.bool b)
  | number (depth : Nat) {n : Nat} (small : n ≤ maxWord) : Plain depth (.ofNat n)
  | string (depth : Nat) (s : String) : Plain depth (.string s)
  | array {depth : Nat} {items : List Json} (plain : ∀ item ∈ items, Plain depth item) :
    Plain (depth + 1) (.array items)
  | object {depth : Nat} {fields : List (String × Json)}
    (ordered : fields.Pairwise fun a b => a.1 < b.1)
    (plain : ∀ field ∈ fields, Plain depth field.2) : Plain (depth + 1) (.object fields)

theorem chars_ofNat (n : Nat) : chars (.ofNat n) = digits n := by
  rw [ofNat, chars, Number.chars, if_neg (by omega), Int.natAbs_natCast]

section order

variable {name : String} {value : Json} {fields : List (String × Json)}

/-- A field whose name comes after all others is put behind them. -/
theorem insertField_last (above : ∀ field ∈ fields, field.1 < name) :
    insertField name value fields = fields ++ [(name, value)] := by
  induction fields with
  | nil => rfl
  | cons field fields ih =>
    obtain ⟨first, rest⟩ := List.forall_mem_cons.mp above
    have differ : name ≠ field.1 := (String.ne_of_lt first).symm
    have below : ¬ name < field.1 := String.lt_asymm first
    rw [insertField, if_neg differ, if_neg below, ih rest, List.cons_append]

/-- Fields that are in order stay where they are. -/
theorem sorted_of_ordered (ordered : fields.Pairwise fun a b => a.1 < b.1) :
    sorted fields = .object fields := by
  have inserted (done rest : List (String × Json))
      (ordered : (done ++ rest).Pairwise fun a b => a.1 < b.1) :
      rest.foldl (fun fs field => insertField field.1 field.2 fs) done = done ++ rest := by
    induction rest generalizing done with
    | nil => simp
    | cons field rest ih =>
      have above : ∀ other ∈ done, other.1 < field.1 := fun other among =>
        (List.pairwise_append.mp ordered).2.2 other among field List.mem_cons_self
      rw [List.append_cons] at ordered ⊢
      rw [← ih _ ordered, ← insertField_last above]
      rfl
  exact congrArg Json.object (inserted [] fields ordered)

end order

section items

variable {items : List Json} {part : Json → Part}

/-- Items are read one by one. -/
theorem readItems_itemChars (nonempty : items ≠ [])
    (read : ∀ item ∈ items, IsReadAs (chars item) (part item)) (fuel : Nat)
    (deep : 2 * (itemChars items).length < fuel) (rest : List Char) :
    readItems fuel (itemChars items ++ rest) = some (items.map part, rest) := by
  induction items generalizing fuel with
  | nil => exact absurd rfl nonempty
  | cons item items ih =>
    obtain ⟨first, later⟩ := List.forall_mem_cons.mp read
    obtain ⟨fuel, rfl⟩ := Nat.exists_eq_succ_of_ne_zero (Nat.ne_zero_of_lt deep)
    cases items with
    | nil =>
      rw [itemChars] at deep ⊢
      rw [List.length_append] at deep
      have ends : Ends (']' :: rest) := .inr ⟨rest, .inr (.inl rfl)⟩
      rw [List.append_assoc, List.singleton_append, readItems, first fuel _ (by omega) ends]
      rfl
    | cons item' items =>
      rw [itemChars.eq_3 _ _ (by simp)] at deep ⊢
      rw [List.length_append, List.length_cons] at deep
      have ends : Ends (',' :: (itemChars (item' :: items) ++ rest)) := .inr ⟨_, .inl rfl⟩
      have others := ih (by simp) later fuel (by omega)
      rw [List.append_assoc, List.cons_append, readItems, first fuel _ (by omega) ends]
      change Option.bind (readItems fuel _) _ = _
      rw [others]
      rfl

/-- An array is taken apart into its items, if none of them begins like the end of the array. -/
theorem isReadAs_array (read : ∀ item ∈ items, IsReadAs (chars item) (part item))
    (begins : ∀ item ∈ items, ∃ c cs, chars item = c :: cs ∧ isSpace c = false ∧ c ≠ ']') :
    IsReadAs (chars (.array items)) (.array (items.map part)) := by
  refine .of_succ (by simp [chars]) fun fuel rest deep ends => ?_
  rw [chars, List.length_cons] at deep
  rw [chars, List.cons_append, readPart, skipSpace_cons rfl]
  cases items with
  | nil => rfl
  | cons item items =>
    have inside := readItems_itemChars (by simp) read fuel (by omega) rest
    obtain ⟨c, cs, first, space, bracket⟩ := begins item List.mem_cons_self
    obtain ⟨others, shown⟩ : ∃ others, itemChars (item :: items) = c :: others := by
      cases items with
      | nil => exact ⟨_, by rw [itemChars, first]; rfl⟩
      | cons item' items => exact ⟨_, by rw [itemChars.eq_3 _ _ (by simp), first]; rfl⟩
    rw [shown, List.cons_append] at inside ⊢
    simp only [skipSpace_cons space]
    split
    · rename_i same
      exact absurd (List.cons.inj same).1 bracket
    · change Option.bind (readItems fuel _) _ = _
      rw [inside]
      rfl

end items

/-- A value can be told from the end of an array by how it begins. -/
theorem Plain.begins {depth : Nat} {j : Json} (plain : Plain depth j) :
    ∃ c cs, chars j = c :: cs ∧ isSpace c = false ∧ c ≠ ']' := by
  cases plain with
  | null => exact ⟨'n', ['u', 'l', 'l'], rfl, rfl, by decide⟩
  | bool _ b =>
    cases b with
    | false => exact ⟨'f', ['a', 'l', 's', 'e'], rfl, rfl, by decide⟩
    | true => exact ⟨'t', ['r', 'u', 'e'], rfl, rfl, by decide⟩
  | number =>
    rename_i n small
    obtain ⟨c, cs, shown⟩ := List.exists_cons_of_ne_nil (Decimal.digits_ne_nil n)
    have digit : isDigit c = true :=
      Decimal.isDigit_of_mem (by rw [shown]; exact List.mem_cons_self)
    have other {d : Char} (no_digit : isDigit d = false) : c ≠ d := by
      rintro rfl
      rw [no_digit] at digit
      cases digit
    refine ⟨c, cs, by rw [chars_ofNat, shown], ?_, other rfl⟩
    simp [isSpace, other (d := ' ') rfl, other (d := '\n') rfl, other (d := '\t') rfl,
      other (d := '\r') rfl]
  | string => exact ⟨'"', _, rfl, rfl, by decide⟩
  | array => exact ⟨'[', _, rfl, rfl, by decide⟩
  | object => exact ⟨'\x7b', _, rfl, rfl, by decide⟩

/-- Items whose parts have a value have one together. -/
theorem itemValues_map {depth : Nat} {items : List Json} {part : Json → Part}
    (value : ∀ item ∈ items, (part item).value depth = some item) :
    itemValues depth (items.map part) = some items := by
  induction items with
  | nil => rfl
  | cons item items ih =>
    obtain ⟨first, later⟩ := List.forall_mem_cons.mp value
    rw [List.map_cons, itemValues, first, ih later]

theorem fieldValues_map {depth : Nat} {fields : List (String × Json)}
    {part : String × Json → Part}
    (value : ∀ field ∈ fields, (part field).value depth = some field.2) :
    fieldValues depth (fields.map fun field => (some field.1.toList, part field)) =
      some fields := by
  induction fields with
  | nil => rfl
  | cons field fields ih =>
    obtain ⟨first, later⟩ := List.forall_mem_cons.mp value
    simp only [List.map_cons, fieldValues, first, ih later, String.ofList_toList]

theorem isReadAs_null : IsReadAs (chars .null) .null := by
  refine .of_succ (by decide) fun fuel rest _ _ => ?_
  change readPart (fuel + 1) ('n' :: 'u' :: 'l' :: 'l' :: rest) = _
  rw [readPart, skipSpace_cons rfl]
  rfl

theorem isReadAs_bool (b : Bool) : IsReadAs (chars (.bool b)) (.bool b) := by
  cases b with
  | false =>
    refine .of_succ (by decide) fun fuel rest _ _ => ?_
    change readPart (fuel + 1) ('f' :: 'a' :: 'l' :: 's' :: 'e' :: rest) = _
    rw [readPart, skipSpace_cons rfl]
    rfl
  | true =>
    refine .of_succ (by decide) fun fuel rest _ _ => ?_
    change readPart (fuel + 1) ('t' :: 'r' :: 'u' :: 'e' :: rest) = _
    rw [readPart, skipSpace_cons rfl]
    rfl

/-- A plain value is read wherever it is written, and what is read stands for it. -/
theorem Plain.isRead {depth : Nat} {j : Json} (plain : Plain depth j) :
    ∃ part, IsReadAs (chars j) part ∧ part.value depth = some j := by
  have : Nonempty Part := ⟨.null⟩
  induction plain with
  | null depth => exact ⟨.null, isReadAs_null, rfl⟩
  | bool depth b => exact ⟨.bool b, isReadAs_bool b, rfl⟩
  | number depth small =>
    rename_i n
    refine ⟨_, by rw [chars_ofNat]; exact isReadAs_digits n, ?_⟩
    rw [Part.value, value_digits small]
    rfl
  | string depth s => exact ⟨_, isReadAs_quoted s, by simp [Part.value]⟩
  | array plain read =>
    choose! part read using read
    refine ⟨_, isReadAs_array (fun item among => (read item among).1)
      (fun item among => (plain item among).begins), ?_⟩
    rw [Part.value, if_neg (Nat.succ_ne_zero _), Nat.add_sub_cancel,
      itemValues_map fun item among => (read item among).2]
    rfl
  | object ordered plain read =>
    choose! part read using read
    refine ⟨_, isReadAs_object fun field among => (read field among).1, ?_⟩
    rw [Part.value, if_neg (Nat.succ_ne_zero _), Nat.add_sub_cancel,
      fieldValues_map fun field among => (read field among).2, Option.map_some,
      sorted_of_ordered ordered]

/-- A plain value survives being written and read again. -/
theorem read?_text {j : Json} (plain : Plain maxDepth j) : read? j.text = some j := by
  obtain ⟨part, read, value⟩ := plain.isRead
  rw [read?, text, String.toList_ofList, readParts_of_isReadAs read]
  exact value

section shown

/-- A character that is no control character of ASCII, so that no line ends at it. -/
def IsShown (c : Char) : Prop :=
  0x20 ≤ c.toNat

instance (c : Char) : Decidable (IsShown c) :=
  inferInstanceAs (Decidable (0x20 ≤ c.toNat))

variable {c d : Char}

theorem isShown_of_all {cs : List Char} (all : cs.all (fun c => decide (IsShown c)) = true) :
    ∀ c ∈ cs, IsShown c :=
  fun c among => of_decide_eq_true (List.all_eq_true.mp all c among)

theorem isShown_hexDigit : ∀ n < 16, IsShown (Hex.digit n) := by
  decide

theorem isShown_escape (among : c ∈ escape d) : IsShown c := by
  revert c
  unfold escape
  repeat
    split
    · exact isShown_of_all (by decide) _
  split
  · rename_i control
    have high := isShown_hexDigit (d.toNat / 16) (by omega)
    have low := isShown_hexDigit (d.toNat % 16) (by omega)
    simp only [List.forall_mem_cons, List.not_mem_nil, false_implies, implies_true, high, low]
    decide
  · rename_i large
    simpa [IsShown] using large

/-- Whatever is in a text, no line ends in it when it is quoted. -/
theorem isShown_quoteChars {s : String} (among : c ∈ quoteChars s) : IsShown c := by
  rw [quoteChars, List.cons_append, List.mem_cons, List.mem_append, List.mem_flatMap,
    List.mem_singleton] at among
  rcases among with rfl | ⟨d, -, among⟩ | rfl
  · decide
  · exact isShown_escape among
  · decide

theorem isShown_itemChars {items : List Json}
    (shown : ∀ item ∈ items, ∀ c ∈ chars item, IsShown c) (among : c ∈ itemChars items) :
    IsShown c := by
  induction items with
  | nil =>
    obtain rfl := List.mem_singleton.mp among
    decide
  | cons item items ih =>
    obtain ⟨first, later⟩ := List.forall_mem_cons.mp shown
    cases items with
    | nil =>
      rw [itemChars, List.mem_append, List.mem_singleton] at among
      rcases among with among | rfl
      · exact first c among
      · decide
    | cons item' items =>
      rw [itemChars.eq_3 _ _ (by simp), List.mem_append, List.mem_cons] at among
      rcases among with among | rfl | among
      · exact first c among
      · decide
      · exact ih later among

theorem isShown_fieldChars {fields : List (String × Json)}
    (shown : ∀ field ∈ fields, ∀ c ∈ chars field.2, IsShown c) (among : c ∈ fieldChars fields) :
    IsShown c := by
  induction fields with
  | nil =>
    obtain rfl := List.mem_singleton.mp among
    decide
  | cons field fields ih =>
    obtain ⟨first, later⟩ := List.forall_mem_cons.mp shown
    cases fields with
    | nil =>
      rw [fieldChars, List.mem_append, List.mem_append, List.mem_cons, List.mem_singleton] at among
      rcases among with (among | rfl | among) | rfl
      · exact isShown_quoteChars among
      · decide
      · exact first c among
      · decide
    | cons field' fields =>
      rw [fieldChars.eq_3 _ _ _ (by simp), List.mem_append, List.mem_append, List.mem_cons,
        List.mem_cons] at among
      rcases among with (among | rfl | among) | rfl | among
      · exact isShown_quoteChars among
      · decide
      · exact first c among
      · decide
      · exact ih later among

/-- A plain value is written on one line. -/
theorem Plain.isShown {depth : Nat} {j : Json} (plain : Plain depth j) :
    ∀ c ∈ chars j, IsShown c := by
  induction plain with
  | null => exact isShown_of_all (by decide)
  | bool _ b => cases b <;> exact isShown_of_all (by decide)
  | number =>
    rename_i n small
    intro c among
    rw [chars_ofNat] at among
    have digit := Decimal.isDigit_of_mem among
    simp only [isDigit, Bool.and_eq_true, decide_eq_true_eq] at digit
    exact Nat.le_trans (by decide) digit.1
  | string => exact fun c => isShown_quoteChars
  | array _ shown =>
    intro c among
    rcases List.mem_cons.mp among with rfl | among
    · decide
    · exact isShown_itemChars shown among
  | object _ _ shown =>
    intro c among
    rcases List.mem_cons.mp among with rfl | among
    · decide
    · exact isShown_fieldChars shown among

end shown

end ProviderWallet.Json
