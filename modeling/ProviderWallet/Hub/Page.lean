import ProviderWallet.Address

namespace ProviderWallet.Hub

structure Endpoint where
  url : String
  token : String
  deriving DecidableEq, Repr

structure Page where
  url : String
  token : String
  deriving DecidableEq, Repr

/-- What the hub sends back: a status with its standard phrase, and a body; or why nothing came
back. -/
abbrev Answer := Except String (Nat × String)

def addressOf (server : String) (account : Address) : String :=
  String.ofList (server.toList.reverse.dropWhile (· = '/')).reverse ++
    "/check_holding_collateral/" ++ account.text

def Endpoint.page (endpoint : Endpoint) (account : Address) : Page :=
  ⟨addressOf endpoint.url account, endpoint.token⟩

end ProviderWallet.Hub
