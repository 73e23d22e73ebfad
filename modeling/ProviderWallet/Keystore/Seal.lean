import ProviderWallet.Cipher.Gcm
import ProviderWallet.Hash.Argon2id
import ProviderWallet.Keystore.Record
import ProviderWallet.Text.Utf8

namespace ProviderWallet.Keystore

open Text

namespace SealedKey

def currentVersion : Nat := 1

def saltSize : Nat := 16

def nonceSize : Nat := 12

/-- What it costs to try a passphrase: 64 MiB, three times over. -/
def cost : Hash.Argon2id.Cost := ⟨65536, 3⟩

def cipherKey (passphrase : String) (salt : Bytes) : Bytes :=
  Hash.Argon2id.derive cost 32 (Bytes.ofText passphrase) salt

def ofKey (fresh : Fresh) (passphrase : String) (key : KeyText) : SealedKey :=
  let salt := Bytes.ofNat saltSize fresh.salt.toNat
  let nonce := Bytes.ofNat nonceSize fresh.nonce.toNat
  { version := currentVersion
    salt := Hex.encode salt
    nonce := Hex.encode nonce
    ciphertext :=
      Hex.encode (Cipher.Gcm.encrypt (cipherKey passphrase salt) nonce (Bytes.ofText key.text)) }

def bytesOf (s : String) : Except String Bytes :=
  (Hex.decodeText s).mapError Hex.Fault.message

def notOpened : String := "decryption failed, wrong passphrase or corrupted record"

def unlock (name : String) (passphrase : Option String) (s : SealedKey) :
    Except String KeyText := do
  let some passphrase := passphrase
    | .error ("record " ++ name ++ " is sealed and no passphrase is configured")
  if s.version ≠ currentVersion then
    .error ("unsupported record version " ++ Decimal.text s.version ++ " (expected " ++
      Decimal.text currentVersion ++ ")")
  else
    let salt ← bytesOf s.salt
    let nonce ← bytesOf s.nonce
    let ciphertext ← bytesOf s.ciphertext
    if salt.length ≠ saltSize ∨ nonce.length ≠ nonceSize then
      .error ("record " ++ name ++ " has malformed salt or nonce")
    else
      match Cipher.Gcm.decrypt (cipherKey passphrase salt) nonce ciphertext with
      | none => .error notOpened
      | some plaintext =>
        match Utf8.fault? plaintext, Bytes.toText? plaintext with
        | none, some text => .ok ⟨text⟩
        | some fault, _ => .error fault.message
        | none, none => .error notOpened

end SealedKey

def Record.ofKey (fresh : Fresh) (passphrase : Option String) (key : KeyText) : Record :=
  match passphrase with
  | none => .plain key
  | some passphrase => .closed (SealedKey.ofKey fresh passphrase key)

def Record.unlock (name : String) (passphrase : Option String) :
    Record → Except String KeyText
  | .plain key => .ok key
  | .closed s => s.unlock name passphrase

end ProviderWallet.Keystore
