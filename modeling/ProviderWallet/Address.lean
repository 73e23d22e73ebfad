import ProviderWallet.Curve.Secp256k1
import ProviderWallet.Failure
import ProviderWallet.Hash.Keccak
import ProviderWallet.Text.Blank
import ProviderWallet.Text.Hex

namespace ProviderWallet

structure Address where
  value : BitVec 160
  deriving DecidableEq, Repr

namespace Address

open Text

def bytes (a : Address) : Bytes :=
  Bytes.ofNat 20 a.value.toNat

def ofBytes (bytes : Bytes) : Address :=
  ⟨BitVec.ofNat 160 (Bytes.toNat bytes)⟩

def ofPoint : Curve.Secp256k1.Point → Address
  | .infinity => ofBytes []
  | .affine x y => ofBytes (Hash.Keccak.hash (Bytes.ofNat 32 x ++ Bytes.ofNat 32 y))

def digits (a : Address) : List Char :=
  Hex.digits a.bytes

def marks (bytes : Bytes) : List Bool :=
  bytes.flatMap fun b => [128 ≤ b.toNat, 8 ≤ b.toNat % 16]

def mixCase : List Bool → List Char → List Char
  | up :: marks, c :: cs => (if up then c.toUpper else c) :: mixCase marks cs
  | _, cs => cs

/-- The digits with their case chosen by a hash of the lower case digits. -/
def mixedDigits (hash : Bytes → Bytes) (a : Address) : List Char :=
  mixCase (marks (hash (a.digits.map fun c => UInt8.ofNat c.toNat))) a.digits

def text (a : Address) : String :=
  String.ofList ('0' :: 'x' :: mixedDigits Hash.Keccak.hash a)

/-- The text of an address in lower case, as the node is asked about it. -/
def lowerText (a : Address) : String :=
  String.ofList ('0' :: 'x' :: a.digits)

def readDigits? (cs : List Char) : Option Nat :=
  cs.foldlM (fun n c => (Hex.charValue? c).map (16 * n + ·)) 0

/-- The address that `0x` and forty digits write, and nothing else. -/
def read? : List Char → Option Address
  | '0' :: 'x' :: cs =>
    if cs.length = 40 then (readDigits? cs).map fun n => ⟨BitVec.ofNat 160 n⟩ else none
  | _ => none

/-- Reads an address given by a user. Blanks around it and the case of its letters do not matter. -/
def parse (s : String) : Except Failure Address :=
  match read? (Blank.trim s.toList) with
  | some a => .ok a
  | none => .error (.addressFormat s)

end Address

end ProviderWallet
