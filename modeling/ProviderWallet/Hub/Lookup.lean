import ProviderWallet.Http.Status
import ProviderWallet.Hub.Escrow
import ProviderWallet.Workflow

namespace ProviderWallet.Hub

def escrowOfAnswer : Answer → Except Failure String
  | .error reason => .error (.hub reason)
  | .ok (status, body) =>
    if Http.isSuccess status then escrowOfBody body
    else .error (.hub ("hub returned " ++ Http.statusText status ++ ": " ++ body))

def escrow (endpoint : Endpoint) (account : Address) : Workflow (Except Failure String) :=
  if Text.Blank.trim endpoint.url.toList = [] then
    .done (.error (.hub "hub server_url is not configured"))
  else .request (.fetch (endpoint.page account)) fun answer => .done (escrowOfAnswer answer)

end ProviderWallet.Hub
