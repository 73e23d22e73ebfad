import ProviderWallet.Json.Fields
import ProviderWallet.Json.Writer
import ProviderWallet.Keystore.Basic

namespace ProviderWallet.Keystore

structure SealedKey where
  version : Nat
  salt : String
  nonce : String
  ciphertext : String
  deriving DecidableEq, Repr

inductive Record where
  | closed (key : SealedKey)
  | plain (key : KeyText)
  deriving DecidableEq, Repr

namespace Record

def json : Record → Json
  | closed key =>
    .object [("version", .ofNat key.version), ("salt", .string key.salt),
      ("nonce", .string key.nonce), ("ciphertext", .string key.ciphertext)]
  | plain key => .object [("privateKey", .string key.text)]

def text (record : Record) : String :=
  record.json.text

def readSealed? (part : Json.Part) : Option SealedKey := do
  let fields ← part.fieldsOf? ["version", "salt", "nonce", "ciphertext"]
  let version ← (← fields.lookup "version").nat?
  if Nat.pow 2 32 ≤ version then none
  else
    return ⟨version, ← (← fields.lookup "salt").text?, ← (← fields.lookup "nonce").text?,
      ← (← fields.lookup "ciphertext").text?⟩

def readPlain? (part : Json.Part) : Option KeyText := do
  let fields ← part.fieldsOf? ["privateKey"]
  return ⟨← (← fields.lookup "privateKey").text?⟩

def notJson : String := "the record is not written in JSON"

def noForm : String := "data did not match any variant of untagged enum StoredRecord"

/-- Reads the text of a record. The sealed form is tried first. The text is refused for its reason
if all of it is not JSON, also where no field of a record stands. -/
def read (s : String) : Except String Record :=
  match Json.readParts s.toList with
  | none => .error notJson
  | some part =>
    if (part.value Json.maxDepth).isNone then .error notJson
    else
      match readSealed? part, readPlain? part with
      | some key, _ => .ok (.closed key)
      | none, some key => .ok (.plain key)
      | none, none => .error noForm

end Record

end ProviderWallet.Keystore
