import ProviderWallet.Keystore.Seal
import ProviderWallet.Proofs.CipherStream
import ProviderWallet.Proofs.JsonText

namespace ProviderWallet.Keystore

open Text

namespace Record

def fields : Record → List (String × Json)
  | closed key =>
    [("version", .ofNat key.version), ("salt", .string key.salt), ("nonce", .string key.nonce),
      ("ciphertext", .string key.ciphertext)]
  | plain key => [("privateKey", .string key.text)]

def part (record : Record) : Json.Part :=
  .object (Json.scalarParts record.fields)

def Fits : Record → Prop
  | closed key => key.version < Nat.pow 2 32
  | plain _ => True

theorem toList_text (record : Record) :
    record.text.toList = Json.chars (.object record.fields) := by
  rw [text, Json.text, String.toList_ofList]
  cases record <;> rfl

theorem names_differ (record : Record) : (record.fields.map Prod.fst).Nodup := by
  cases record <;> simp [fields]

theorem word_of_fits {key : SealedKey} (h : (closed key).Fits) : key.version ≤ Json.maxWord :=
  Nat.le_of_lt (Nat.lt_trans h (by decide))

theorem fields_scalar {record : Record} (h : record.Fits) :
    ∀ field ∈ record.fields, field.2.IsScalar := by
  cases record with
  | closed key => simpa [fields, Json.ofNat, Json.IsScalar] using word_of_fits h
  | plain key => simp [fields, Json.IsScalar]

theorem readSealed?_closed {key : SealedKey} (h : (closed key).Fits) :
    readSealed? (closed key).part = some key := by
  have version := Json.Part.nat?_scalarPart (word_of_fits h)
  have small : ¬ Nat.pow 2 32 ≤ key.version := Nat.not_le.mpr h
  rw [readSealed?, part, Json.Part.fieldsOf?_scalars _ (names_differ _)]
  simp [fields, Json.Part.text?_scalarPart, version, List.lookup_cons, small]

/-- The record of a plain key is not mistaken for a sealed one. -/
theorem readSealed?_plain (key : KeyText) : readSealed? (plain key).part = none := by
  rw [readSealed?, part, Json.Part.fieldsOf?_scalars _ (names_differ _)]
  simp [fields]

theorem readPlain?_plain (key : KeyText) : readPlain? (plain key).part = some key := by
  rw [readPlain?, part, Json.Part.fieldsOf?_scalars _ (names_differ _)]
  simp [fields, Json.Part.text?_scalarPart]

/-- A record survives being written and read again. -/
theorem read_text {record : Record} (h : record.Fits) : read record.text = .ok record := by
  have parts : Json.readParts record.text.toList = some record.part := by
    rw [toList_text]
    exact Json.readParts_object (fields_scalar h)
  have value : (record.part.value Json.maxDepth).isNone = false := by
    have := Json.isSome_value_object (fields_scalar h)
    rw [part, ← Option.not_isSome, this]
    rfl
  rw [read, parts]
  simp only [value, Bool.false_eq_true, if_false]
  cases record with
  | closed key => rw [readSealed?_closed h]
  | plain key => rw [readSealed?_plain, readPlain?_plain]

end Record

/-- A sealed key is opened with the passphrase that it was sealed with. -/
theorem SealedKey.unlock_ofKey (name : String) (fresh : Fresh) (passphrase : String)
    (key : KeyText) : (ofKey fresh passphrase key).unlock name (some passphrase) = .ok key := by
  have digits (bytes : Bytes) : bytesOf (Hex.encode bytes) = .ok bytes := by
    rw [bytesOf, Hex.decodeText_encode]
    rfl
  have size (salt : Bytes) : (cipherKey passphrase salt).length = 32 :=
    Hash.Argon2id.length_derive cost (by decide) _ _
  have opened (salt nonce : Bytes) :=
    Cipher.Gcm.decrypt_encrypt (size salt) nonce (Bytes.ofText key.text)
  simp only [unlock, ofKey, digits, bind, Except.bind, Bytes.length_ofNat, opened,
    Utf8.fault?_ofText, Bytes.toText?_ofText]
  rfl

namespace Record

theorem fits_ofKey (fresh : Fresh) (passphrase : Option String) (key : KeyText) :
    (ofKey fresh passphrase key).Fits := by
  cases passphrase with
  | none => trivial
  | some passphrase => exact (by decide : 1 < Nat.pow 2 32)

/-- A key is opened with the passphrase that it was stored with, or without any. -/
theorem unlock_ofKey (name : String) (fresh : Fresh) (passphrase : Option String)
    (key : KeyText) : (ofKey fresh passphrase key).unlock name passphrase = .ok key := by
  cases passphrase with
  | none => rfl
  | some passphrase => exact SealedKey.unlock_ofKey name fresh passphrase key

end Record

end ProviderWallet.Keystore
