import ProviderWallet.Text.Hex

namespace ProviderWallet

abbrev Wei := BitVec 256

namespace Quantity

inductive Fault where
  | badDigit (byte : UInt8)
  | tooLarge
  deriving DecidableEq, Repr

/-- Reads digits after those of `sofar`. Underscores are skipped, and no digits are zero. -/
def readFrom (sofar : Nat) : Bytes → Except Fault Wei
  | [] => .ok (BitVec.ofNat 256 sofar)
  | b :: bytes =>
    if b = 95 then readFrom sofar bytes
    else if 48 ≤ b ∧ b ≤ 57 then
      let next := sofar * 10 + (b.toNat - 48)
      if Nat.pow 2 256 ≤ next then .error .tooLarge else readFrom next bytes
    else .error (.badDigit b)

def read (s : String) : Except Fault Wei :=
  readFrom 0 (Bytes.ofText s)

def Fault.messages : Fault → List String
  | .badDigit byte => ["invalid digit: " ++ String.ofList [Char.ofNat byte.toNat]]
  | .tooLarge =>
    ["the value is too large to fit the target type",
     "the value is too large to fit the target type"]

def marked (n : Nat) : String :=
  if n = 0 then "0x0"
  else "0x" ++ String.ofList ((Text.Hex.digits (Bytes.minimal n)).dropWhile (· = '0'))

end Quantity

end ProviderWallet
