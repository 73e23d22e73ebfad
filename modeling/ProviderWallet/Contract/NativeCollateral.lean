import ProviderWallet.Contract.Basic

namespace ProviderWallet.Contract.NativeCollateral

/-- The amount is the value of the transaction. -/
def deposit (account : Address) : Invocation :=
  ⟨"deposit", [.address account]⟩

def withdraw (account : Address) (amount : Wei) : Invocation :=
  ⟨"withdraw", [.address account, .uint256 amount]⟩

def info (account : Address) : Invocation :=
  ⟨"cpInfo", [.address account]⟩

structure Info where
  account : Address
  balance : Wei
  frozen : Wei
  status : String
  deriving DecidableEq, Repr

def readInfo? (data : Bytes) : Option Info :=
  match Abi.decodeStructure [.address, .uint256, .uint256, .text] data with
  | some [.address account, .uint256 balance, .uint256 frozen, .text status] =>
    some ⟨account, balance, frozen, status⟩
  | _ => none

end ProviderWallet.Contract.NativeCollateral
