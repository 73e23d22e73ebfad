import ProviderWallet.Json.Fields
import ProviderWallet.Json.Writer
import ProviderWallet.Proofs.Spelling

namespace ProviderWallet.Json

open Decimal (digits isDigit)
open Text

theorem skipSpace_cons {c : Char} (h : isSpace c = false) (cs : List Char) :
    skipSpace (c :: cs) = c :: cs :=
  List.dropWhile_cons_of_neg (by simp [h])

def prepend (c : Char) : Option (List Piece × List Char) → Option (List Piece × List Char) :=
  Option.map fun (ps, left) => (.char c :: ps, left)

theorem readPieces_simple {e c : Char} (h : simpleEscape? e = some c) (rest : List Char) :
    readPieces ('\\' :: e :: rest) = prepend c (readPieces rest) := by
  have other : e ≠ 'u' := by
    rintro rfl
    cases h
  rw [readPieces.eq_def]
  split
  · rename_i h'
    cases h'
  · rename_i h'
    obtain ⟨-, rfl, -⟩ := h'
    exact absurd rfl other
  · rename_i h'
    obtain ⟨-, rfl, rfl⟩ := h'
    rw [h]
    cases readPieces rest <;> rfl
  · rename_i no yes h'
    obtain ⟨rfl, rfl⟩ := h'
    exact (yes _ _ rfl rfl).elim
  · rename_i h'
    cases h'

theorem readPieces_unit {c : Char} (h : c.toNat < 0x20) (rest : List Char) :
    readPieces ('\\' :: 'u' :: '0' :: '0' :: Hex.digit (c.toNat / 16) ::
      Hex.digit (c.toNat % 16) :: rest) = prepend c (readPieces rest) := by
  have high := Hex.charValue?_digit (show c.toNat / 16 < 16 by omega)
  have low := Hex.charValue?_digit (show c.toNat % 16 < 16 by omega)
  have zero : Hex.charValue? '0' = some 0 := rfl
  have value : hexUnit? '0' '0' (Hex.digit (c.toNat / 16)) (Hex.digit (c.toNat % 16)) =
      some c.toNat := by
    simp [hexUnit?, high, low, zero]
    omega
  have piece : unitPiece c.toNat = .char c := by
    have h1 : ¬ 0xd800 ≤ c.toNat := by omega
    have h2 : ¬ 0xdc00 ≤ c.toNat := by omega
    simp [unitPiece, h1, h2]
  rw [readPieces, value]
  simp only [Option.bind_eq_bind, Option.bind_some, piece]
  cases readPieces rest <;> rfl

theorem readPieces_plain {c : Char} (large : ¬ c.toNat < 0x20) (quote : c ≠ '"')
    (slash : c ≠ '\\') (rest : List Char) :
    readPieces (c :: rest) = prepend c (readPieces rest) := by
  rw [readPieces]
  · simp [large, slash]
    cases readPieces rest <;> rfl
  · exact quote
  · intro _ _ _ _ _ h
    exact absurd h slash
  · intro _ _ h
    exact absurd h slash

theorem readPart_digit {c : Char} (h : isDigit c) (depth : Nat) (cs : List Char) :
    readPart (depth + 1) (c :: cs) =
      (readNumeral (c :: cs)).map fun (n, left) => (.number n, left) := by
  have other (d : Char) (no_digit : isDigit d = false) : c ≠ d := by
    intro same
    rw [same, no_digit] at h
    cases h
  have space : isSpace c = false := by
    simp [isSpace, other ' ' rfl, other '\n' rfl, other '\t' rfl, other '\r' rfl]
  rw [readPart, skipSpace_cons space]
  split
  case h_7 => cases readNumeral (c :: cs) <;> rfl
  all_goals
    rename_i start
    exact absurd (List.cons.inj start).1 (other _ rfl)

def Ends (rest : List Char) : Prop :=
  rest = [] ∨ ∃ cs, rest = ',' :: cs ∨ rest = ']' :: cs ∨ rest = '\x7d' :: cs

/-- An escaped character is read as the character. -/
theorem readPieces_escape (c : Char) (rest : List Char) :
    readPieces (escape c ++ rest) = prepend c (readPieces rest) := by
  unfold escape
  repeat
    split
    · subst_vars
      exact readPieces_simple rfl rest
  split
  · rename_i control
    exact readPieces_unit control rest
  · rename_i quote slash _ _ _ _ _ large
    exact readPieces_plain large quote slash rest

/-- The characters of a string are read one by one. -/
theorem readPieces_escaped (cs rest : List Char) :
    readPieces (cs.flatMap escape ++ '"' :: rest) = some (cs.map .char, rest) := by
  induction cs with
  | nil => rfl
  | cons c cs ih =>
    rw [List.flatMap_cons, List.append_assoc, readPieces_escape, ih]
    rfl

theorem joinPieces_chars (cs : List Char) : joinPieces (cs.map .char) = some cs := by
  induction cs with
  | nil => rfl
  | cons c cs ih => rw [List.map_cons, joinPieces, ih, Option.map_some]

/-- A string survives being written and read again. -/
theorem readString_escaped (s : String) (rest : List Char) :
    readString (s.toList.flatMap escape ++ '"' :: rest) = some (some s.toList, rest) := by
  simp [readString, readPieces_escaped, joinPieces_chars]

theorem takeDigits_digits (n : Nat) {rest : List Char} (ends : Ends rest) :
    takeDigits (digits n ++ rest) = (digits n, rest) := by
  have all : ∀ c ∈ digits n, isDigit c = true := fun c among => Decimal.isDigit_of_mem among
  rw [takeDigits, List.takeWhile_append_of_pos all, List.dropWhile_append_of_pos all]
  obtain rfl | ⟨cs, rfl | rfl | rfl⟩ := ends <;> simp [isDigit]

theorem readWhole_digits (n : Nat) {rest : List Char} (ends : Ends rest) :
    readWhole (digits n ++ rest) = some (digits n, rest) := by
  have taken := takeDigits_digits n ends
  by_cases zero : n = 0
  · subst zero
    obtain rfl | ⟨cs, rfl | rfl | rfl⟩ := ends <;> rw [digits] <;> rfl
  · obtain ⟨c, ds, shown⟩ := List.exists_cons_of_ne_nil (Decimal.digits_ne_nil n)
    have nonzero : c ≠ '0' := by
      rintro rfl
      exact zero (Decimal.eq_zero_of_head shown)
    rw [shown] at taken ⊢
    rw [readWhole.eq_def]
    split
    · rename_i h
      exact absurd (List.cons.inj h).1 nonzero
    · rw [taken]

/-- Digits are read as a numeral up to where they end. -/
theorem readNumeral_digits (n : Nat) {rest : List Char} (ends : Ends rest) :
    readNumeral (digits n ++ rest) = some (⟨false, digits n, [], none⟩, rest) := by
  have whole := readWhole_digits n ends
  have places : readPlaces rest = some ([], rest) := by
    obtain rfl | ⟨cs, rfl | rfl | rfl⟩ := ends <;> rfl
  have exponent : readExponent rest = some (none, rest) := by
    obtain rfl | ⟨cs, rfl | rfl | rfl⟩ := ends <;> rfl
  obtain ⟨c, ds, shown⟩ := List.exists_cons_of_ne_nil (Decimal.digits_ne_nil n)
  have digit : isDigit c = true := Decimal.isDigit_of_mem (by rw [shown]; exact List.mem_cons_self)
  rw [readNumeral]
  · simp [whole, places, exponent]
  · intro cs signed
    rw [shown] at signed
    rw [(List.cons.inj signed).1] at digit
    cases digit

theorem readPart_digits (n depth : Nat) {rest : List Char} (ends : Ends rest) :
    readPart (depth + 1) (digits n ++ rest) =
      some (.number ⟨false, digits n, [], none⟩, rest) := by
  obtain ⟨c, ds, shown⟩ := List.exists_cons_of_ne_nil (Decimal.digits_ne_nil n)
  have digit : isDigit c = true := Decimal.isDigit_of_mem (by rw [shown]; exact List.mem_cons_self)
  have numeral := readNumeral_digits n ends
  rw [shown, List.cons_append] at numeral
  rw [shown, List.cons_append, readPart_digit digit, numeral]
  rfl

/-- A text is read up to its closing quote, whatever follows. -/
theorem readPart_quoted (s : String) (depth : Nat) (rest : List Char) :
    readPart (depth + 1) (quoteChars s ++ rest) = some (.string (some s.toList), rest) := by
  rw [quoteChars, List.cons_append, List.cons_append, List.append_assoc, readPart,
    skipSpace_cons rfl]
  simp [readString_escaped]

/-- A text is read as a part wherever it stands. -/
def IsReadAs (value : List Char) (part : Part) : Prop :=
  ∀ fuel rest, 2 * value.length ≤ fuel → Ends rest →
    readPart fuel (value ++ rest) = some (part, rest)

/-- No value is an empty text, so that there is at least one call to read it. -/
theorem IsReadAs.of_succ {value : List Char} {part : Part} (nonempty : value ≠ [])
    (read : ∀ fuel rest, 2 * value.length ≤ fuel + 1 → Ends rest →
      readPart (fuel + 1) (value ++ rest) = some (part, rest)) : IsReadAs value part := by
  intro fuel rest deep ends
  have positive := List.length_pos_iff.mpr nonempty
  obtain ⟨fuel, rfl⟩ := Nat.exists_eq_succ_of_ne_zero (show fuel ≠ 0 by omega)
  exact read fuel rest deep ends

theorem isReadAs_quoted (s : String) : IsReadAs (quoteChars s) (.string (some s.toList)) :=
  .of_succ (by simp [quoteChars]) fun fuel rest _ _ => readPart_quoted s fuel rest

theorem isReadAs_digits (n : Nat) : IsReadAs (digits n) (.number ⟨false, digits n, [], none⟩) :=
  .of_succ (Decimal.digits_ne_nil n) fun fuel _ _ ends => readPart_digits n fuel ends

section fields

variable {name : String} {value rest : List Char} {part : Part} {fuel : Nat}

/-- The last field of an object, whatever its value is. -/
theorem readFields_one (name : String)
    (read : readPart fuel (value ++ '\x7d' :: rest) = some (part, '\x7d' :: rest)) :
    readFields (fuel + 1) (quoteChars name ++ ':' :: value ++ '\x7d' :: rest) =
      some ([(some name.toList, part)], rest) := by
  rw [quoteChars, readFields]
  simp [skipSpace_cons, isSpace, readString_escaped, read]

/-- A field in front of others, whatever its value is. -/
theorem readFields_more (name : String)
    (read : readPart fuel (value ++ ',' :: rest) = some (part, ',' :: rest)) :
    readFields (fuel + 1) (quoteChars name ++ ':' :: value ++ ',' :: rest) =
      (readFields fuel rest).map fun (fields, left) =>
        ((some name.toList, part) :: fields, left) := by
  rw [quoteChars, readFields]
  simp [skipSpace_cons, isSpace, readString_escaped, read]
  cases readFields fuel rest <;> rfl

end fields

/-- Fields are read one by one. -/
theorem readFields_fieldChars {fields : List (String × Json)} {part : String × Json → Part}
    (nonempty : fields ≠ [])
    (read : ∀ field ∈ fields, IsReadAs (chars field.2) (part field)) (fuel : Nat)
    (deep : 2 * (fieldChars fields).length < fuel) (rest : List Char) :
    readFields fuel (fieldChars fields ++ rest) =
      some (fields.map fun field => (some field.1.toList, part field), rest) := by
  induction fields generalizing fuel with
  | nil => exact absurd rfl nonempty
  | cons field fields ih =>
    obtain ⟨name, value⟩ := field
    have first : IsReadAs (chars value) (part (name, value)) := read _ List.mem_cons_self
    obtain ⟨fuel, rfl⟩ := Nat.exists_eq_succ_of_ne_zero (Nat.ne_zero_of_lt deep)
    cases fields with
    | nil =>
      rw [fieldChars] at deep ⊢
      simp only [List.length_append, List.length_cons] at deep
      have ends : Ends ('\x7d' :: rest) := .inr ⟨rest, .inr (.inr rfl)⟩
      rw [List.append_assoc, List.singleton_append,
        readFields_one name (first fuel _ (by omega) ends)]
      rfl
    | cons field' fields =>
      rw [fieldChars.eq_3 _ _ _ (by simp)] at deep ⊢
      simp only [List.length_append, List.length_cons] at deep
      have ends : Ends (',' :: (fieldChars (field' :: fields) ++ rest)) := .inr ⟨_, .inl rfl⟩
      rw [List.append_assoc, List.cons_append,
        readFields_more name (first fuel _ (by omega) ends),
        ih (by simp) (fun other among => read other (List.mem_cons_of_mem _ among)) fuel (by omega)]
      rfl

def oneField (name : String) (value : List Char) : List Char :=
  '\x7b' :: (quoteChars name ++ ':' :: value ++ ['\x7d'])

/-- An object with one field is read, whatever the value of the field is. -/
theorem readPart_oneField (name : String) {value : List Char} {part : Part} {depth : Nat}
    (reads : ∀ rest, Ends rest → readPart (depth + 1) (value ++ rest) = some (part, rest))
    (rest : List Char) :
    readPart (depth + 3) (oneField name value ++ rest) =
      some (.object [(some name.toList, part)], rest) := by
  have ends : Ends ('\x7d' :: rest) := .inr ⟨rest, .inr (.inr rfl)⟩
  have fields := readFields_one name (reads _ ends)
  rw [oneField, List.cons_append, List.append_assoc, List.singleton_append, readPart,
    skipSpace_cons rfl]
  rw [quoteChars] at fields ⊢
  simp only [List.cons_append, skipSpace_cons (show isSpace '"' = false from rfl)] at fields ⊢
  change Option.bind (readFields (depth + 2) _) _ = _
  rw [fields]
  rfl

theorem fieldChars_eq_quote {fields : List (String × Json)} (nonempty : fields ≠ []) :
    ∃ cs, fieldChars fields = '"' :: cs := by
  obtain ⟨field, fields, rfl⟩ := List.exists_cons_of_ne_nil nonempty
  cases fields with
  | nil => exact ⟨_, by rw [fieldChars, quoteChars]; rfl⟩
  | cons field' fields =>
    have shown := fieldChars.eq_3 field.1 field.2 (field' :: fields) (by simp)
    exact ⟨_, by rw [shown, quoteChars]; rfl⟩

/-- An object is taken apart into its fields. -/
theorem isReadAs_object {fields : List (String × Json)} {part : String × Json → Part}
    (read : ∀ field ∈ fields, IsReadAs (chars field.2) (part field)) :
    IsReadAs (chars (.object fields))
      (.object (fields.map fun field => (some field.1.toList, part field))) := by
  refine .of_succ (by simp [chars]) fun fuel rest deep ends => ?_
  rw [chars, List.length_cons] at deep
  rw [chars, List.cons_append, readPart, skipSpace_cons rfl]
  by_cases empty : fields = []
  · subst empty
    rfl
  · have inside := readFields_fieldChars empty read fuel (by omega) rest
    obtain ⟨cs, shown⟩ := fieldChars_eq_quote empty
    rw [shown, List.cons_append] at inside ⊢
    simp only [skipSpace_cons (show isSpace '"' = false from rfl)]
    change Option.bind (readFields fuel _) _ = _
    rw [inside]
    rfl

theorem readParts_of_isReadAs {cs : List Char} {part : Part} (read : IsReadAs cs part) :
    readParts cs = some part := by
  have whole := read (2 * cs.length + 2) [] (by omega) (.inl rfl)
  rw [List.append_nil] at whole
  rw [readParts, whole]
  rfl

def IsScalar : Json → Prop
  | .string _ => True
  | .number (.whole n) => 0 ≤ n ∧ n.natAbs ≤ maxWord
  | _ => False

def scalarPart : Json → Part
  | .string s => .string (some s.toList)
  | .number (.whole n) => .number ⟨false, digits n.natAbs, [], none⟩
  | _ => .null

theorem isReadAs_scalar {j : Json} (scalar : j.IsScalar) : IsReadAs (chars j) j.scalarPart := by
  cases j with
  | string s => exact isReadAs_quoted s
  | number n =>
    cases n with
    | whole n =>
      have positive : ¬ n < 0 := Int.not_lt.mpr scalar.1
      rw [chars, Number.chars, if_neg positive]
      exact isReadAs_digits n.natAbs
    | double _ _ => cases scalar
  | _ => cases scalar

def scalarParts (fields : List (String × Json)) : List (Option (List Char) × Part) :=
  fields.map fun (name, value) => (some name.toList, value.scalarPart)

/-- An object of texts and natural numbers is taken apart into its fields. -/
theorem readParts_object {fields : List (String × Json)}
    (scalars : ∀ field ∈ fields, field.2.IsScalar) :
    readParts (chars (.object fields)) = some (.object (scalarParts fields)) :=
  readParts_of_isReadAs (isReadAs_object fun field among => isReadAs_scalar (scalars field among))

/-- A natural number of 64 bits has the value that was written. -/
theorem value_digits {n : Nat} (small : n ≤ maxWord) :
    Numeral.value ⟨false, digits n, [], none⟩ = some (.whole n) := by
  simp [Numeral.value, Decimal.value_digits, small]

theorem isSome_value_scalarPart {j : Json} (scalar : j.IsScalar) (depth : Nat) :
    (j.scalarPart.value depth).isSome := by
  cases j with
  | string s =>
    rw [scalarPart, Part.value]
    rfl
  | number n =>
    cases n with
    | whole n =>
      rw [scalarPart, Part.value, value_digits scalar.2]
      rfl
    | double _ _ => cases scalar
  | _ => cases scalar

theorem isSome_fieldValues {fields : List (String × Json)}
    (scalars : ∀ field ∈ fields, field.2.IsScalar) (depth : Nat) :
    (fieldValues depth (scalarParts fields)).isSome := by
  induction fields with
  | nil =>
    rw [scalarParts, List.map_nil, fieldValues]
    rfl
  | cons field fields ih =>
    have later := ih fun f among => scalars f (List.mem_cons_of_mem _ among)
    have first := isSome_value_scalarPart (scalars field List.mem_cons_self) depth
    obtain ⟨v, first⟩ := Option.isSome_iff_exists.mp first
    obtain ⟨vs, later⟩ := Option.isSome_iff_exists.mp later
    rw [scalarParts] at later
    simp only [scalarParts, List.map_cons, fieldValues, first, later]
    rfl

/-- An object of texts and natural numbers has a value. -/
theorem isSome_value_object {fields : List (String × Json)}
    (scalars : ∀ field ∈ fields, field.2.IsScalar) :
    ((Part.object (scalarParts fields)).value maxDepth).isSome := by
  rw [Part.value, if_neg (by decide), Option.isSome_map]
  exact isSome_fieldValues scalars _

namespace Part

theorem mapM_scalarParts {f : Option (List Char) × Part → Option (String × Part)}
    (reads : ∀ name part, f (some (String.toList name), part) = some (name, part))
    (fields : List (String × Json)) :
    (scalarParts fields).mapM f =
      some (fields.map fun field => (field.1, field.2.scalarPart)) := by
  induction fields with
  | nil => rfl
  | cons field fields ih =>
    rw [scalarParts] at ih
    rw [scalarParts, List.map_cons, List.mapM_cons, ih, reads]
    rfl

/-- The fields whose names are known are found among all others, if no name comes twice. -/
theorem fieldsOf?_scalars (names : List String) {fields : List (String × Json)}
    (differ : (fields.map Prod.fst).Nodup) :
    (object (scalarParts fields)).fieldsOf? names =
      some ((fields.filter fun field => names.contains field.1).map fun field =>
        (field.1, field.2.scalarPart)) := by
  have known : (((fields.filter fun field => names.contains field.1).map
      fun field => (field.1, field.2.scalarPart)).map Prod.fst).Nodup := by
    rw [List.map_map]
    exact (List.filter_sublist.map Prod.fst).nodup differ
  rw [fieldsOf?, mapM_scalarParts fun name part => by simp]
  simp only [Option.bind_eq_bind, Option.bind_some, List.filter_map]
  exact if_pos known

theorem text?_scalarPart (s : String) : (Json.string s).scalarPart.text? = some s := by
  simp [scalarPart, text?]

theorem nat?_scalarPart {n : Nat} (small : n ≤ maxWord) :
    (Json.ofNat n).scalarPart.nat? = some n := by
  simp [ofNat, scalarPart, nat?, value_digits small]

end Part

end ProviderWallet.Json
