import ProviderWallet.Address
import ProviderWallet.Amount
import ProviderWallet.Text.Utf8

namespace ProviderWallet.Abi

inductive Ty where
  | address
  | uint256
  | uint8
  | text
  | texts
  deriving DecidableEq, Repr

def Ty.name : Ty → String
  | .address => "address"
  | .uint256 => "uint256"
  | .uint8 => "uint8"
  | .text => "string"
  | .texts => "string[]"

inductive Value where
  | address (a : Address)
  | uint256 (n : Wei)
  | uint8 (n : UInt8)
  | text (s : String)
  | texts (ss : List String)
  deriving DecidableEq, Repr

def Value.ty : Value → Ty
  | .address _ => .address
  | .uint256 _ => .uint256
  | .uint8 _ => .uint8
  | .text _ => .text
  | .texts _ => .texts

def word (n : Nat) : Bytes :=
  Bytes.ofNat 32 n

/-- A value as it is laid out: in a word of its own, or apart from the words. Its word then says
where it starts, counted from the first word. -/
inductive Part where
  | inline (word : Bytes)
  | apart (body : Bytes)

def heads : (offset : Nat) → List Part → Bytes
  | _, [] => []
  | offset, .inline w :: parts => w ++ heads offset parts
  | offset, .apart body :: parts => word offset ++ heads (offset + body.length) parts

def bodies : List Part → Bytes
  | [] => []
  | .inline _ :: parts => bodies parts
  | .apart body :: parts => body ++ bodies parts

def layout (parts : List Part) : Bytes :=
  heads (32 * parts.length) parts ++ bodies parts

def textBody (s : String) : Bytes :=
  let bytes := Bytes.ofText s
  word bytes.length ++ Bytes.padRight 32 bytes

def Value.part : Value → Part
  | .address a => .inline (word a.value.toNat)
  | .uint256 n => .inline (word n.toNat)
  | .uint8 n => .inline (word n.toNat)
  | .text s => .apart (textBody s)
  | .texts ss => .apart (word ss.length ++ layout (ss.map fun s => .apart (textBody s)))

def encode (values : List Value) : Bytes :=
  layout (values.map Value.part)

def wordAt? (data : Bytes) (offset : Nat) : Option Nat :=
  if offset + 32 ≤ data.length then some (Bytes.toNat ((data.drop offset).take 32)) else none

def bodyAt? (data : Bytes) (offset : Nat) : Option Bytes := do
  let start ← wordAt? data offset
  if start ≤ data.length then some (data.drop start) else none

/-- The text in a body. The bytes that fill its last word must be there, but may be anything. -/
def readText? (body : Bytes) : Option String := do
  let size ← wordAt? body 0
  if 32 + (size + 31) / 32 * 32 ≤ body.length then
    some (Text.Utf8.decodeLossy ((body.drop 32).take size))
  else none

def readTexts? (body : Bytes) : Option (List String) := do
  let count ← wordAt? body 0
  let items := body.drop 32
  if 32 * count ≤ items.length then
    (List.range count).mapM fun i => do readText? (← bodyAt? items (32 * i))
  else none

/-- Reads a value whose word is at an offset. Unused high bytes of a word are ignored. -/
def readValue? (data : Bytes) (offset : Nat) : Ty → Option Value
  | .address => (wordAt? data offset).map fun n => .address ⟨BitVec.ofNat 160 n⟩
  | .uint256 => (wordAt? data offset).map fun n => .uint256 (BitVec.ofNat 256 n)
  | .uint8 => (wordAt? data offset).map fun n => .uint8 (UInt8.ofNat n)
  | .text => do return .text (← readText? (← bodyAt? data offset))
  | .texts => do return .texts (← readTexts? (← bodyAt? data offset))

def readValues? (data : Bytes) : (offset : Nat) → List Ty → Option (List Value)
  | _, [] => some []
  | offset, ty :: tys => do
    let value ← readValue? data offset ty
    return value :: (← readValues? data (offset + 32) tys)

/-- Reads values of the given types. Data after them is ignored. -/
def decode (tys : List Ty) (data : Bytes) : Option (List Value) :=
  readValues? data 0 tys

def decodeStructure (tys : List Ty) (data : Bytes) : Option (List Value) := do
  decode tys (← bodyAt? data 0)

end ProviderWallet.Abi
