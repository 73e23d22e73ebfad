import ProviderWallet.Contract.Basic

namespace ProviderWallet.Contract.TokenCollateral

def deposit (account : Address) (amount : Wei) : Invocation :=
  ⟨"deposit", [.address account, .uint256 amount]⟩

def withdraw (account : Address) (amount : Wei) : Invocation :=
  ⟨"withdraw", [.address account, .uint256 amount]⟩

def balances (account : Address) : Invocation :=
  ⟨"balances", [.address account]⟩

def readBalance? (data : Bytes) : Option Wei :=
  match Abi.decode [.uint256] data with
  | some [.uint256 n] => some n
  | _ => none

end ProviderWallet.Contract.TokenCollateral
