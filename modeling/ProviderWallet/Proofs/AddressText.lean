import ProviderWallet.Proofs.HexNumber

namespace ProviderWallet

open Text
open Text.Hex (Denotes Shows)

namespace Address

variable {s : String} {a : Address} {cs : List Char} {n : Nat}

theorem foldlM_addDigit_iff {m : Nat} : cs.foldlM addDigit m = some n ↔
    ∃ ds, List.Forall₂ Shows cs ds ∧ m * 16 ^ cs.length + Nat.ofDigits 16 ds.reverse = n := by
  induction cs generalizing m with
  | nil => simp [eq_comm]
  | cons c cs ih =>
    have step (d : Nat) (ds : List Nat) (shown : List.Forall₂ Shows cs ds) :
        (16 * m + d) * 16 ^ cs.length + Nat.ofDigits 16 ds.reverse =
          m * 16 ^ (c :: cs).length + Nat.ofDigits 16 (d :: ds).reverse := by
      rw [List.reverse_cons, Nat.ofDigits_append, Nat.ofDigits_singleton, List.length_reverse,
        ← shown.length_eq, List.length_cons, Nat.pow_succ]
      ring
    simp only [List.foldlM_cons, addDigit, Option.bind_eq_bind, Option.bind_map,
      Option.bind_eq_some_iff, Hex.charValue?_eq_some_iff, Function.comp_apply]
    constructor
    · rintro ⟨d, shows, rest⟩
      obtain ⟨ds, shown, number⟩ := ih.mp rest
      exact ⟨d :: ds, .cons shows shown, by rw [← step d ds shown, number]⟩
    · rintro ⟨_, _ | ⟨shows, shown⟩, number⟩
      refine ⟨_, shows, ih.mpr ⟨_, shown, ?_⟩⟩
      rw [step _ _ shown, number]

/-- Digits are read as the number that they denote. -/
theorem readDigits?_eq_some_iff : readDigits? cs = some n ↔ Denotes cs n := by
  change cs.foldlM addDigit 0 = some n ↔ _
  simp only [foldlM_addDigit_iff, Nat.zero_mul, Nat.zero_add, Denotes]

theorem toNat_bytes (a : Address) : Bytes.toNat a.bytes = a.value.toNat := by
  have fits : a.value.toNat < Nat.pow 256 20 := a.value.isLt
  rw [bytes, Bytes.toNat_ofNat fits]

/-- Forty digits denote the bytes of one address. -/
theorem denotes_ofNat (length : cs.length = 40) (denotes : Denotes cs n) :
    Bytes.toNat (⟨BitVec.ofNat 160 n⟩ : Address).bytes = n := by
  have fits : n < 2 ^ 160 := by
    have bound := denotes.lt
    rwa [length, show (16 : Nat) ^ 40 = 2 ^ 160 by decide] at bound
  rw [toNat_bytes, BitVec.toNat_ofNat, Nat.mod_eq_of_lt fits]

theorem read?_eq_some_iff : read? cs = some a ↔
    ∃ digits, cs = '0' :: 'x' :: digits ∧ digits.length = 40 ∧
      Denotes digits (Bytes.toNat a.bytes) := by
  constructor
  · intro read
    unfold read? at read
    split at read
    · rename_i digits
      split at read
      · rename_i length
        obtain ⟨n, known, rfl⟩ := Option.map_eq_some_iff.mp read
        have denotes := readDigits?_eq_some_iff.mp known
        rw [← denotes_ofNat length denotes] at denotes
        exact ⟨digits, rfl, length, denotes⟩
      · cases read
    · cases read
  · rintro ⟨digits, rfl, length, denotes⟩
    rw [read?, if_pos length, readDigits?_eq_some_iff.mpr denotes, toNat_bytes]
    simp

/-- A text spells an address: `0x` and the forty digits of its bytes, with blanks around. -/
def Spells (s : String) (a : Address) : Prop :=
  ∃ digits, Blank.Padded s.toList ('0' :: 'x' :: digits) ∧ digits.length = 40 ∧
    Denotes digits (Bytes.toNat a.bytes)

theorem padded_iff {digits : List Char} (hex : ∀ c ∈ digits, IsHexDigit c) :
    Blank.Padded cs ('0' :: 'x' :: digits) ↔ Blank.trim cs = '0' :: 'x' :: digits := by
  constructor
  · intro padded
    refine padded.trim_eq ?_
    simp only [List.forall_mem_cons]
    exact ⟨rfl, rfl, fun c among => (hex c among).not_blank⟩
  · intro trimmed
    rw [← trimmed]
    exact Blank.padded_trim cs

theorem spells_iff : Spells s a ↔ read? (Blank.trim s.toList) = some a := by
  rw [read?_eq_some_iff]
  constructor
  · rintro ⟨digits, padded, length, denotes⟩
    exact ⟨digits, (padded_iff denotes.isHexDigit).mp padded, length, denotes⟩
  · rintro ⟨digits, trimmed, length, denotes⟩
    exact ⟨digits, (padded_iff denotes.isHexDigit).mpr trimmed, length, denotes⟩

/-- A text is read as the address that it spells. -/
theorem parse_eq_ok_iff : parse s = .ok a ↔ Spells s a := by
  rw [spells_iff, parse]
  cases read? (Blank.trim s.toList) <;> simp

theorem read?_eq_none (nothing : ∀ a, ¬ Spells s a) : read? (Blank.trim s.toList) = none := by
  rw [Option.eq_none_iff_forall_ne_some]
  exact fun a read => nothing a (spells_iff.mpr read)

theorem parse_refused (nothing : ∀ a, ¬ Spells s a) : parse s = .error (.addressFormat s) := by
  rw [parse, read?_eq_none nothing]

/-- Whether a text spells any address is told by its characters alone. -/
theorem exists_spells_iff : (∃ a, Spells s a) ↔ ∃ digits,
    Blank.Padded s.toList ('0' :: 'x' :: digits) ∧ digits.length = 40 ∧
      ∀ c ∈ digits, IsHexDigit c := by
  constructor
  · rintro ⟨a, digits, padded, length, denotes⟩
    exact ⟨digits, padded, length, denotes.isHexDigit⟩
  · rintro ⟨digits, padded, length, hex⟩
    obtain ⟨n, denotes⟩ := Hex.exists_denotes hex
    rw [← denotes_ofNat length denotes] at denotes
    exact ⟨_, digits, padded, length, denotes⟩

end Address

namespace Text

def fromByte? : Nat → List Char → Option (List Char)
  | 0, cs => some cs
  | _ + 1, [] => none
  | n + 1, c :: cs => if c.utf8Size ≤ n + 1 then fromByte? (n + 1 - c.utf8Size) cs else none

end Text

namespace Address

/-- Reads an address by the bytes of a text. There have to be 42 of them, the first two the mark,
and digits from the third on. There is no result if the third byte is within a character. -/
def parseByBytes? (s : String) : Option (Except Failure Address) :=
  let trimmed := Blank.trim s.toList
  if (String.ofList trimmed).utf8ByteSize = 42 ∧ ['0', 'x'].isPrefixOf trimmed then
    (fromByte? 2 trimmed).map fun digits =>
      if digits.all fun c => (Hex.charValue? c).isSome then
        match read? trimmed with
        | some a => .ok a
        | none => .error (.addressFormat s)
      else .error (.addressFormat s)
  else some (.error (.addressFormat s))

variable {s : String} {a : Address}

theorem fromByte?_marked (digits : List Char) :
    fromByte? 2 ('0' :: 'x' :: digits) = some digits := by
  have small : '0'.utf8Size = 1 ∧ 'x'.utf8Size = 1 := by decide
  simp [fromByte?, small]

/-- A text that spells an address has the size that is asked for first, and digits wherever it is
cut. -/
theorem Spells.guarded (spells : Spells s a) :
    (String.ofList (Blank.trim s.toList)).utf8ByteSize = 42 ∧
      ∃ digits, Blank.trim s.toList = '0' :: 'x' :: digits ∧
        digits.all fun c => (Hex.charValue? c).isSome := by
  obtain ⟨digits, trimmed, length, denotes⟩ := read?_eq_some_iff.mp (spells_iff.mp spells)
  have hex := denotes.isHexDigit
  have ascii : ∀ c ∈ '0' :: 'x' :: digits, c.toNat < 128 := by
    simp only [List.forall_mem_cons]
    refine ⟨by decide, by decide, fun c among => ?_⟩
    obtain ⟨d, shows⟩ := Hex.isHexDigit_iff.mp (hex c among)
    exact shows.ascii
  refine ⟨?_, digits, trimmed, List.all_eq_true.mpr fun c among => ?_⟩
  · rw [trimmed, utf8ByteSize_ascii (by rwa [String.toList_ofList]), String.toList_ofList,
      List.length_cons, List.length_cons, length]
  · obtain ⟨d, shows⟩ := Hex.isHexDigit_iff.mp (hex c among)
    rw [Hex.charValue?_eq_some_iff.mpr shows]
    rfl

/-- To read by bytes is to read by characters: no byte within a character is ever looked for. -/
theorem parseByBytes?_eq (s : String) : parseByBytes? s = some (parse s) := by
  by_cases said : ∃ a, Spells s a
  · obtain ⟨a, spells⟩ := said
    obtain ⟨size, digits, trimmed, hex⟩ := spells.guarded
    have marked : ['0', 'x'].isPrefixOf (Blank.trim s.toList) := by
      rw [trimmed]
      rfl
    rw [parse_eq_ok_iff.mpr spells, parseByBytes?]
    simp only [if_pos (And.intro size marked), spells_iff.mp spells]
    rw [trimmed, fromByte?_marked, Option.map_some, if_pos hex]
  · have unread := read?_eq_none (not_exists.mp said)
    rw [parse, unread, parseByBytes?]
    simp only [unread, ite_self]
    split
    · rename_i guard
      obtain ⟨digits, same⟩ := List.isPrefixOf_iff_prefix.mp guard.2
      rw [← same, List.cons_append, List.cons_append, List.nil_append, fromByte?_marked]
      rfl
    · rfl

/-- How a text is read that may be an address. -/
structure ReadByDigits (s : String) : Prop where
  read (a : Address) : parse s = .ok a ↔ Spells s a
  accepted : (∃ a, parse s = .ok a) ↔ ∃ digits,
    Blank.Padded s.toList ('0' :: 'x' :: digits) ∧ digits.length = 40 ∧ ∀ c ∈ digits, IsHexDigit c
  refused (nothing : ¬ ∃ a, parse s = .ok a) : parse s = .error (.addressFormat s)
  bytes : parseByBytes? s = some (parse s)

/-- Texts and names of records whose letter case some hash chooses lead back to their addresses. -/
structure LeadsBack (hash : Bytes → Bytes) : Prop where
  text (a : Address) : parse (a.textBy hash) = .ok a
  one (a b : Address) (same : a.recordNameBy hash = b.recordNameBy hash) : a = b
  spelled (s : String) (a : Address) (spells : Spells s a) :
    (parse s).map (recordNameBy hash) = .ok (a.recordNameBy hash)
  owner (a : Address) : ofRecordName? (a.recordNameBy hash) = some a
  allowed (folder : Keystore.Folder) (a : Address) : folder.pathOf (a.recordNameBy hash) =
    .ok (Storage.Path.join folder.path (a.recordNameBy hash))

end Address

/-- A text is an address exactly if it is `0x` and forty digits between blanks, and all others are
refused as they are. The text of every address and the name of its record lead back to it, and they
would under any other hash. -/
theorem addresses_read_back :
    (∀ s, Address.ReadByDigits s) ∧ (∀ hash, Address.LeadsBack hash) ∧
      ∀ a : Address, a.text = a.textBy Hash.Keccak.hash ∧
        a.recordName = a.recordNameBy Hash.Keccak.hash := by
  refine ⟨fun s => ?_, fun hash => ?_, fun a => ⟨rfl, rfl⟩⟩
  · refine ⟨fun a => Address.parse_eq_ok_iff, ?_, ?_, Address.parseByBytes?_eq s⟩
    · simp only [Address.parse_eq_ok_iff, Address.exists_spells_iff]
    · intro nothing
      simp only [Address.parse_eq_ok_iff, not_exists] at nothing
      exact Address.parse_refused nothing
  · refine ⟨Address.parse_textBy hash, fun a b => Address.recordNameBy_injective hash, ?_,
      Address.ofRecordName?_recordNameBy hash, ?_⟩
    · intro s a spells
      rw [Address.parse_eq_ok_iff.mpr spells]
      rfl
    · intro folder a
      exact if_pos (a.isName_recordNameBy hash)

end ProviderWallet
