import ProviderWallet.Contract.Basic

namespace ProviderWallet.Contract.Token

def approve (spender : Address) (amount : Wei) : Invocation :=
  ⟨"approve", [.address spender, .uint256 amount]⟩

def transfer (recipient : Address) (amount : Wei) : Invocation :=
  ⟨"transfer", [.address recipient, .uint256 amount]⟩

def balanceOf (account : Address) : Invocation :=
  ⟨"balanceOf", [.address account]⟩

def readBalance? (data : Bytes) : Option Wei :=
  match Abi.decode [.uint256] data with
  | some [.uint256 n] => some n
  | _ => none

end ProviderWallet.Contract.Token
