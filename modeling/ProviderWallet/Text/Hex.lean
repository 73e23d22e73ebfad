import ProviderWallet.Bytes

namespace ProviderWallet.Text.Hex

def digit (n : Nat) : Char :=
  if n < 10 then Char.ofNat (48 + n) else Char.ofNat (87 + n)

def digitValue? (b : UInt8) : Option Nat :=
  let n := b.toNat
  if 48 ≤ n ∧ n ≤ 57 then some (n - 48)
  else if 97 ≤ n ∧ n ≤ 102 then some (n - 87)
  else if 65 ≤ n ∧ n ≤ 70 then some (n - 55)
  else none

def charValue? (c : Char) : Option Nat :=
  if c.toNat < 128 then digitValue? (UInt8.ofNat c.toNat) else none

def digits (bytes : Bytes) : List Char :=
  bytes.flatMap fun b => [digit (b.toNat / 16), digit (b.toNat % 16)]

def encode (bytes : Bytes) : String :=
  String.ofList (digits bytes)

def encodeMarked (bytes : Bytes) : String :=
  "0x" ++ encode bytes

inductive Fault where
  | oddLength
  | badDigit (byte : UInt8) (index : Nat)
  deriving DecidableEq, Repr

def Fault.message : Fault → String
  | .oddLength => "Odd number of digits"
  | .badDigit byte index =>
    "Invalid character '" ++ String.ofList [Char.ofNat byte.toNat] ++ "' at position " ++
      toString index

def decodeFrom (index : Nat) : Bytes → Except Fault Bytes
  | high :: low :: rest =>
    match digitValue? high, digitValue? low with
    | none, _ => .error (.badDigit high index)
    | some _, none => .error (.badDigit low (index + 1))
    | some h, some l =>
      match decodeFrom (index + 2) rest with
      | .error fault => .error fault
      | .ok bytes => .ok (UInt8.ofNat (16 * h + l) :: bytes)
  | _ => .ok []

/-- Reads the bytes of a text of hexadecimal digits. The length is checked first. -/
def decode (text : Bytes) : Except Fault Bytes :=
  if text.length % 2 = 1 then .error .oddLength else decodeFrom 0 text

def decodeText (s : String) : Except Fault Bytes :=
  decode (Bytes.ofText s)

end ProviderWallet.Text.Hex
