import ProviderWallet.Keystore.Folder
import ProviderWallet.Proofs.Blanks
import ProviderWallet.Proofs.FolderFiles
import ProviderWallet.Proofs.Spelling
import ProviderWallet.Wallet

namespace ProviderWallet

open Text

def IsHexDigit (c : Char) : Prop :=
  ∃ n < 16, c = Hex.digit n ∨ c = (Hex.digit n).toUpper

namespace IsHexDigit

variable {c : Char}

theorem of_digits {bytes : Bytes} (h : c ∈ Hex.digits bytes) : IsHexDigit c := by
  obtain ⟨n, small, rfl⟩ := Hex.exists_digit h
  exact ⟨n, small, .inl rfl⟩

theorem toUpper {bytes : Bytes} (h : c ∈ Hex.digits bytes) : IsHexDigit c.toUpper := by
  obtain ⟨n, small, rfl⟩ := Hex.exists_digit h
  exact ⟨n, small, .inr rfl⟩

/-- What holds of both digits of every number below sixteen holds of all digits. -/
theorem all {p : Char → Bool} (both : ∀ n < 16, p (Hex.digit n) ∧ p (Hex.digit n).toUpper)
    (h : IsHexDigit c) : p c := by
  obtain ⟨n, small, rfl | rfl⟩ := h
  · exact (both n small).1
  · exact (both n small).2

theorem not_blank (h : IsHexDigit c) : Blank.isBlank c = false := by
  simpa using h.all (p := fun c => !Blank.isBlank c) (by decide)

theorem isNameChar (h : IsHexDigit c) : Keystore.Folder.isNameChar c :=
  h.all (by decide)

theorem ne_x (h : IsHexDigit c) : c ≠ 'x' := by
  simpa using h.all (p := (· ≠ 'x')) (by decide)

end IsHexDigit

namespace Address

theorem length_mixCase (marks : List Bool) (cs : List Char) :
    (mixCase marks cs).length = cs.length := by
  induction cs generalizing marks with
  | nil => cases marks <;> rfl
  | cons c cs ih =>
    cases marks with
    | nil => rfl
    | cons up marks => rw [mixCase, List.length_cons, List.length_cons, ih]

theorem mem_mixCase {marks : List Bool} {bytes : Bytes} {c : Char}
    (h : c ∈ mixCase marks (Hex.digits bytes)) : IsHexDigit c := by
  have all (cs : List Char) (marks : List Bool) (sub : ∀ d ∈ cs, d ∈ Hex.digits bytes) :
      ∀ d ∈ mixCase marks cs, IsHexDigit d := by
    induction cs generalizing marks with
    | nil => cases marks <;> simp [mixCase]
    | cons d cs ih =>
      intro e among
      cases marks with
      | nil => exact .of_digits (sub e among)
      | cons up marks =>
        rw [mixCase] at among
        rcases List.mem_cons.mp among with rfl | later
        · split
          · exact .toUpper (sub d List.mem_cons_self)
          · exact .of_digits (sub d List.mem_cons_self)
        · exact ih marks (fun d later => sub d (List.mem_cons_of_mem _ later)) e later
  exact all _ marks (fun _ => id) c h

def addDigit (n : Nat) (c : Char) : Option Nat :=
  (Hex.charValue? c).map (16 * n + ·)

theorem addDigit_digit {d : Nat} (n : Nat) (h : d < 16) :
    addDigit n (Hex.digit d) = some (16 * n + d) := by
  rw [addDigit, Hex.charValue?_digit h]
  rfl

/-- A digit counts the same in either case. -/
theorem addDigit_toUpper {bytes : Bytes} {c : Char} (n : Nat) (h : c ∈ Hex.digits bytes) :
    addDigit n c.toUpper = addDigit n c := by
  obtain ⟨d, small, rfl⟩ := Hex.exists_digit h
  have same : ∀ d < 16, Hex.charValue? (Hex.digit d).toUpper = Hex.charValue? (Hex.digit d) := by
    decide
  rw [addDigit, addDigit, same d small]

/-- The case of digits does not matter. -/
theorem readDigits?_mixCase (marks : List Bool) (bytes : Bytes) :
    readDigits? (mixCase marks (Hex.digits bytes)) = readDigits? (Hex.digits bytes) := by
  have all (cs : List Char) (marks : List Bool) (n : Nat) (sub : ∀ c ∈ cs, c ∈ Hex.digits bytes) :
      (mixCase marks cs).foldlM addDigit n = cs.foldlM addDigit n := by
    induction cs generalizing marks n with
    | nil => cases marks <;> rfl
    | cons c cs ih =>
      cases marks with
      | nil => rfl
      | cons up marks =>
        have first : addDigit n (if up then c.toUpper else c) = addDigit n c := by
          split
          · exact addDigit_toUpper n (sub c List.mem_cons_self)
          · rfl
        rw [mixCase, List.foldlM_cons, List.foldlM_cons, first]
        exact bind_congr fun m => ih marks m fun d later => sub d (List.mem_cons_of_mem _ later)
  exact all _ marks 0 fun _ => id

theorem readDigits?_digits (bytes : Bytes) :
    readDigits? (Hex.digits bytes) = some (Bytes.toNat bytes) := by
  have all (n : Nat) : (Hex.digits bytes).foldlM addDigit n =
      some (bytes.foldl (fun n b => n * 256 + b.toNat) n) := by
    induction bytes generalizing n with
    | nil => rfl
    | cons b bytes ih =>
      have small := b.toNat_lt
      rw [Hex.digits_cons, List.foldlM_cons, addDigit_digit n (by omega), Option.bind_eq_bind,
        Option.bind_some, List.foldlM_cons, addDigit_digit _ (by omega), Option.bind_eq_bind,
        Option.bind_some, ih, List.foldl_cons]
      congr 2
      omega
  exact all 0

theorem isHexDigit_of_mem {a : Address} {hash : Bytes → Bytes} {c : Char}
    (h : c ∈ a.mixedDigits hash) : IsHexDigit c :=
  mem_mixCase h

/-- An address survives being written with any case of its letters and read again. -/
theorem read?_mixCase (marks : List Bool) (a : Address) :
    read? ('0' :: 'x' :: mixCase marks a.digits) = some a := by
  have size : (mixCase marks a.digits).length = 40 := by
    rw [length_mixCase, digits, Hex.length_digits, bytes, Bytes.length_ofNat]
  have fits : a.value.toNat < Nat.pow 256 20 := a.value.isLt
  have value : readDigits? (mixCase marks a.digits) = some a.value.toNat := by
    rw [digits, readDigits?_mixCase, readDigits?_digits, bytes, Bytes.toNat_ofNat fits]
  rw [read?, if_pos size, value]
  simp

theorem not_blank_mixCase (marks : List Bool) (a : Address) :
    ∀ c ∈ '0' :: 'x' :: mixCase marks a.digits, Blank.isBlank c = false := by
  intro c among
  rw [List.mem_cons, List.mem_cons] at among
  rcases among with rfl | rfl | among
  · rfl
  · rfl
  · exact (mem_mixCase among).not_blank

/-- An address is read whatever the case of its letters is. -/
theorem parse_mixCase (marks : List Bool) (a : Address) :
    parse (String.ofList ('0' :: 'x' :: mixCase marks a.digits)) = .ok a := by
  rw [parse, String.toList_ofList, Blank.trim_eq (not_blank_mixCase marks a), read?_mixCase]

section anyHash

variable (hash : Bytes → Bytes) (a : Address)

/-- The text of an address if the case of its letters is chosen by some hash. -/
def textBy : String :=
  String.ofList ('0' :: 'x' :: a.mixedDigits hash)

/-- The name that its record has then. -/
def recordNameBy : String :=
  "wallet-" ++ a.textBy hash

/-- The characters of an address are `0x` and digits. -/
theorem toList_textBy : (a.textBy hash).toList = '0' :: 'x' :: a.mixedDigits hash :=
  String.toList_ofList

theorem parse_textBy : parse (a.textBy hash) = .ok a :=
  parse_mixCase _ a

theorem toList_recordNameBy :
    (a.recordNameBy hash).toList = "wallet-".toList ++ (a.textBy hash).toList :=
  String.toList_append

/-- The name of a record tells whose it is. -/
theorem ofRecordName?_recordNameBy : ofRecordName? (a.recordNameBy hash) = some a := by
  have marked : "wallet-".toList.isPrefixOf (a.recordNameBy hash).toList = true := by
    rw [toList_recordNameBy]
    simp
  have rest : (a.recordNameBy hash).toList.drop "wallet-".toList.length =
      (a.textBy hash).toList := by
    rw [toList_recordNameBy, List.drop_left]
  rw [ofRecordName?, if_pos marked, rest, String.ofList_toList, parse_textBy]
  rfl

/-- No two addresses have records of one name. -/
theorem recordNameBy_injective {a b : Address} (h : a.recordNameBy hash = b.recordNameBy hash) :
    a = b := by
  have same := congrArg ofRecordName? h
  rw [ofRecordName?_recordNameBy, ofRecordName?_recordNameBy] at same
  exact Option.some.inj same

end anyHash

theorem toList_text (a : Address) :
    a.text.toList = '0' :: 'x' :: a.mixedDigits Hash.Keccak.hash :=
  a.toList_textBy _

theorem parse_text (a : Address) : parse a.text = .ok a :=
  a.parse_textBy _

theorem ofRecordName?_recordName (a : Address) : ofRecordName? a.recordName = some a :=
  a.ofRecordName?_recordNameBy _

theorem recordName_injective {a b : Address} (h : a.recordName = b.recordName) : a = b :=
  recordNameBy_injective _ h

end Address

/-- Where no `x` stands there is no mark. -/
theorem KeyText.body_eq {cs : List Char} (h : ∀ c ∈ cs, c ≠ 'x') : body cs = cs := by
  unfold body
  split
  · exact absurd rfl (h 'x' (by simp))
  · rfl

namespace SecretKey

variable (key : SecretKey)

theorem toList_text : key.text.toList = Hex.digits (Bytes.ofNat 32 key.scalar) :=
  String.toList_ofList

theorem length_text : key.text.toList.length = 64 := by
  rw [toList_text, Hex.length_digits, Bytes.length_ofNat]

theorem isHexDigit_of_mem {c : Char} (h : c ∈ key.text.toList) : IsHexDigit c :=
  .of_digits (key.toList_text ▸ h)

variable {key}

/-- The digits of a key are read as the key, whatever stands around them. -/
theorem secret_of_body {text : KeyText}
    (digits : KeyText.body (Blank.trim text.text.toList) = key.text.toList) :
    text.secret = .ok key := by
  have filled : Blank.trim text.text.toList ≠ [] := by
    intro nothing
    have size := key.length_text
    rw [← digits, nothing] at size
    cases size
  have decoded : Hex.decodeText key.text = .ok (Bytes.ofNat 32 key.scalar) :=
    Hex.decodeText_encode _
  have fits : key.scalar < Nat.pow 256 32 :=
    Nat.lt_trans key.below_order (by decide)
  have scalar : ofNat? key.scalar = some key := dif_pos ⟨key.positive, key.below_order⟩
  rw [KeyText.secret]
  simp only [if_neg filled, digits, String.ofList_toList, decoded, Bytes.length_ofNat,
    Bytes.toNat_ofNat fits, scalar]
  rfl

variable (key)

/-- A key survives being written and read again. -/
theorem secret_text : (⟨key.text⟩ : KeyText).secret = .ok key := by
  apply secret_of_body
  change KeyText.body (Blank.trim key.text.toList) = key.text.toList
  rw [Blank.trim_eq fun c among => (key.isHexDigit_of_mem among).not_blank,
    KeyText.body_eq fun c among => (key.isHexDigit_of_mem among).ne_x]

/-- The text of a key has the account of the key. -/
theorem address_text : (⟨key.text⟩ : KeyText).address = .ok key.address := by
  rw [KeyText.address, secret_text]
  rfl

end SecretKey

theorem Bytes.length_ofText (s : String) : (ofText s).length = s.utf8ByteSize := by
  simp [ofText]

/-- A text of characters of the first 128 has as many bytes as characters. -/
theorem utf8ByteSize_ascii {s : String} (h : ∀ c ∈ s.toList, c.toNat < 128) :
    s.utf8ByteSize = s.toList.length := by
  have bytes := Bytes.ofText_ascii h
  rw [String.ofList_toList] at bytes
  rw [← Bytes.length_ofText, bytes, List.length_map]

namespace Keystore.Folder

open Storage.Path (IsName)

def IsPlain (c : Char) : Prop :=
  isNameChar c ∨ c = '.'

instance (c : Char) : Decidable (IsPlain c) :=
  inferInstanceAs (Decidable (_ ∨ _))

theorem ascii_of_isNameChar {c : Char} (h : isNameChar c) : c.toNat < 128 := by
  have ranges : ((decide (c.val ≥ 65 ∧ c.val ≤ 90) || (c.val ≥ 97 && c.val ≤ 122)) ||
      (c.val ≥ 48 && c.val ≤ 57) || c = '-' || c = '_') = true := h
  simp only [Bool.or_eq_true, Bool.and_eq_true, decide_eq_true_eq, ge_iff_le,
    UInt32.le_iff_toNat_le] at ranges
  have value : c.toNat = c.val.toNat := rfl
  rcases ranges with (((⟨-, upper⟩ | ⟨-, lower⟩) | ⟨-, digit⟩) | rfl) | rfl
  · exact Nat.lt_of_le_of_lt upper (by decide)
  · exact Nat.lt_of_le_of_lt lower (by decide)
  · exact Nat.lt_of_le_of_lt digit (by decide)
  · decide
  · decide

theorem IsPlain.ascii {c : Char} (h : IsPlain c) : c.toNat < 128 := by
  rcases h with h | rfl
  · exact ascii_of_isNameChar h
  · decide

theorem IsPlain.ne {c d : Char} (h : IsPlain c) (other : isNameChar d = false) (dot : d ≠ '.') :
    c ≠ d := by
  rintro rfl
  rcases h with h | h
  · rw [other] at h
    cases h
  · exact dot h

/-- A text of such characters that is not too short is a name. -/
theorem isName_of_plain {name : String} (plain : ∀ c ∈ name.toList, IsPlain c)
    (long : 2 < name.toList.length) : IsName name where
  no_slash among := (plain _ among).ne (by decide) (by decide) rfl
  no_zero among := (plain _ among).ne (by decide) (by decide) rfl
  nonempty := by
    rintro rfl
    simp at long
  not_dots := by
    constructor
    · rintro rfl
      simp at long
    · rintro rfl
      simp at long

section names

variable {name : String}

theorem isNameChar_of_isName (h : isName name = true) {c : Char} (among : c ∈ name.toList) :
    isNameChar c := by
  rw [isName, Bool.and_eq_true, List.all_eq_true] at h
  exact h.2 c among

/-- A name that a record may have leads to what is directly in a folder. -/
theorem path_isName (h : isName name = true) : IsName name := by
  have absent (c : Char) (other : isNameChar c = false) : c ∉ name.toList := by
    intro among
    rw [isNameChar_of_isName h among] at other
    cases other
  have no_dot := absent '.' (by decide)
  refine ⟨absent '/' (by decide), absent '\x00' (by decide), ?_, ?_, ?_⟩
  · rintro rfl
    simp [isName] at h
  · rintro rfl
    exact no_dot (by decide)
  · rintro rfl
    exact no_dot (by decide)

theorem utf8ByteSize_of_isName (h : isName name = true) :
    name.utf8ByteSize = name.toList.length :=
  utf8ByteSize_ascii fun _ among => ascii_of_isNameChar (isNameChar_of_isName h among)

theorem isHidden_of_isName (h : isName name = true) : isHidden name = false := by
  rw [isHidden, decide_eq_false_iff_not]
  intro start
  have dot := isNameChar_of_isName h (List.mem_of_head? start)
  cases dot

theorem toList_stagingName (name : String) (fresh : Fresh) :
    (stagingName name fresh).toList = '.' :: (name.toList ++ '.' ::
      (Hex.digits (Bytes.ofNat 8 fresh.staging.toNat) ++ ".tmp".toList)) := by
  simp [stagingName, Hex.encode]

theorem length_stagingName (name : String) (fresh : Fresh) :
    (stagingName name fresh).toList.length = name.toList.length + 22 := by
  rw [toList_stagingName]
  simp [Hex.length_digits, Bytes.length_ofNat]

theorem stagingName_plain (h : isName name = true) (fresh : Fresh) :
    ∀ c ∈ (stagingName name fresh).toList, IsPlain c := by
  intro c among
  rw [toList_stagingName] at among
  simp only [List.mem_cons, List.mem_append] at among
  rcases among with rfl | letter | rfl | digit | ending
  · exact .inr rfl
  · exact .inl (isNameChar_of_isName h letter)
  · exact .inr rfl
  · exact .inl (IsHexDigit.of_digits digit).isNameChar
  · have all : ".tmp".toList.all (fun c => decide (IsPlain c)) = true := by decide
    exact of_decide_eq_true (List.all_eq_true.mp all c ending)

theorem stagingName_is (h : isName name = true) (fresh : Fresh) :
    IsName (stagingName name fresh) := by
  have length := length_stagingName name fresh
  exact isName_of_plain (stagingName_plain h fresh) (by omega)

theorem utf8ByteSize_stagingName (h : isName name = true) (fresh : Fresh) :
    (stagingName name fresh).utf8ByteSize = name.utf8ByteSize + 22 := by
  rw [utf8ByteSize_ascii fun c among => (stagingName_plain h fresh c among).ascii,
    length_stagingName, utf8ByteSize_of_isName h]

/-- The file that a record is first written to is hidden. -/
theorem isHidden_stagingName (name : String) (fresh : Fresh) :
    isHidden (stagingName name fresh) = true := by
  rw [isHidden, toList_stagingName]
  rfl

/-- No record has a hidden name. -/
theorem stagingName_ne (name : String) (fresh : Fresh) {other : String}
    (h : isName other = true) : stagingName name fresh ≠ other := by
  intro same
  have hidden := isHidden_stagingName name fresh
  rw [same, isHidden_of_isName h] at hidden
  cases hidden

end names

end Keystore.Folder

namespace Address

open Keystore.Folder

section anyHash

variable (hash : Bytes → Bytes) (a : Address)

theorem isNameChar_of_mem {c : Char} (h : c ∈ (a.recordNameBy hash).toList) : isNameChar c := by
  rw [toList_recordNameBy, toList_textBy, List.mem_append, List.mem_cons, List.mem_cons] at h
  rcases h with mark | rfl | rfl | digit
  · have all : "wallet-".toList.all isNameChar = true := by decide
    exact List.all_eq_true.mp all c mark
  · rfl
  · rfl
  · exact (isHexDigit_of_mem digit).isNameChar

theorem length_recordNameBy : (a.recordNameBy hash).toList.length = 49 := by
  rw [toList_recordNameBy, toList_textBy, List.length_append, List.length_cons, List.length_cons,
    mixedDigits, length_mixCase, digits, Hex.length_digits, bytes, Bytes.length_ofNat]
  rfl

/-- Records of keys have names that records may have. -/
theorem isName_recordNameBy : isName (a.recordNameBy hash) = true := by
  have nonempty : a.recordNameBy hash ≠ "" := by
    intro empty
    have length := a.length_recordNameBy hash
    rw [empty] at length
    cases length
  have all : (a.recordNameBy hash).toList.all isNameChar = true :=
    List.all_eq_true.mpr fun c among => a.isNameChar_of_mem hash among
  rw [isName, all]
  simpa using nonempty

end anyHash

theorem isName_recordName (a : Address) : isName a.recordName = true :=
  a.isName_recordNameBy _

theorem utf8ByteSize_recordName (a : Address) : a.recordName.utf8ByteSize = 49 := by
  rw [utf8ByteSize_of_isName a.isName_recordName]
  exact a.length_recordNameBy _

end Address

end ProviderWallet
