import ProviderWallet.Address

namespace ProviderWallet.Collateral

open Text
open Text.Quoted (quote)

inductive Kind where
  | token
  | native
  deriving DecidableEq, Repr

def Kind.text : Kind → String
  | .token => "fcp"
  | .native => "ecp"

def Kind.parse (s : String) : Except Failure Kind :=
  let name := String.ofList ((Blank.trim s.toList).map Char.toLower)
  if name = "fcp" then .ok .token
  else if name = "ecp" then .ok .native
  else .error (.configuration ("unknown collateral type " ++ quote name ++
    ", expected \"fcp\" or \"ecp\""))

inductive Target where
  /-- The contract takes tokens from an allowance. -/
  | token (collateral token : Address)
  /-- The contract credits a payment to a provider account. -/
  | native (collateral account : Address)
  deriving DecidableEq, Repr

end ProviderWallet.Collateral
