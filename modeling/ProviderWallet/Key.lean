import ProviderWallet.Address

namespace ProviderWallet

open Curve.Secp256k1 (generator order)

/-- A scalar that is not a multiple of the order of the curve. -/
structure SecretKey where
  scalar : Nat
  positive : 0 < scalar
  below_order : scalar < order

namespace SecretKey

def ofNat? (n : Nat) : Option SecretKey :=
  if h : 0 < n ∧ n < order then some ⟨n, h.1, h.2⟩ else none

def address (key : SecretKey) : Address :=
  Address.ofPoint (generator.scale key.scalar)

def text (key : SecretKey) : String :=
  Text.Hex.encode (Bytes.ofNat 32 key.scalar)

end SecretKey

/-- The text that a key is stored as: the digits of its scalar, perhaps after `0x`, in any case
and between blanks. A text that is no key can be stored as well. -/
structure KeyText where
  text : String
  deriving DecidableEq, Repr

namespace KeyText

open Text

def body : List Char → List Char
  | '0' :: 'x' :: cs => cs
  | cs => cs

def secret (key : KeyText) : Except Failure SecretKey :=
  let trimmed := Blank.trim key.text.toList
  if trimmed = [] then .error (.invalidKey "private key must not be empty")
  else
    match Hex.decodeText (String.ofList (body trimmed)) with
    | .error fault => .error (.invalidKey fault.message)
    | .ok bytes =>
      if bytes.length ≠ 32 then
        .error (.invalidKey ("private key must be exactly 32 bytes, got " ++
          toString bytes.length))
      else
        match SecretKey.ofNat? (Bytes.toNat bytes) with
        | some key => .ok key
        | none => .error (.invalidKey "signature error")

def address (key : KeyText) : Except Failure Address :=
  key.secret.map SecretKey.address

def redacted (_ : KeyText) : String :=
  "KeyInfo \x7b private_key: \"<redacted>\" \x7d"

end KeyText

end ProviderWallet
