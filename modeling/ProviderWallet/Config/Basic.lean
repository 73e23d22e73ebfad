import ProviderWallet.Hub.Page
import ProviderWallet.Problem
import ProviderWallet.Storage.Files
import ProviderWallet.Waiter

namespace ProviderWallet

structure Config.Chain where
  default : String
  endpoints : List (String × String)
  deriving DecidableEq, Repr

/-- The addresses of contracts as they were written; an empty one is not configured. -/
structure Config.Contracts where
  collateral : String
  tokenCollateral : String
  token : String
  account : String
  deriving DecidableEq, Repr

structure Config.Keys where
  folder : String
  pollInterval : Nat
  confirmationTimeout : Nat
  operationTimeout : Nat
  deriving DecidableEq, Repr

structure Config where
  chain : Config.Chain
  contracts : Config.Contracts
  hub : Hub.Endpoint
  keys : Config.Keys
  deriving DecidableEq, Repr

namespace Config

open Text.Quoted (quote)

def standard : Config where
  chain :=
    { default := "mainnet"
      endpoints :=
        [("mainnet", "https://mainnet-rpc.swanchain.org"),
         ("testnet", "https://rpc-proxima.swanchain.io")] }
  contracts := ⟨"", "", "", ""⟩
  hub := ⟨"", ""⟩
  keys := ⟨"keystore", 3, 180, 60⟩

/-- The endpoint of the node of a chain, by default of the chain that is meant unless another is
named. An empty endpoint counts as missing. -/
def endpoint (config : Config) (chain : Option String) : Except Problem String :=
  let name := chain.getD config.chain.default
  match config.chain.endpoints.lookup name with
  | some url =>
    if url = "" then .error (.plain ("no RPC endpoint configured for chain " ++ quote name))
    else .ok url
  | none => .error (.plain ("no RPC endpoint configured for chain " ++ quote name))

def requiredAddress (field value : String) : Except Problem Address :=
  if Text.Blank.trim value.toList = [] then .error (.plain (field ++ " is not configured"))
  else Problem.whileDoing ("invalid address in " ++ field) (Problem.ofFailure (Address.parse value))

def collateralAddress (config : Config) : Except Problem Address :=
  requiredAddress "contract.collateral" config.contracts.collateral

def tokenCollateralAddress (config : Config) : Except Problem Address :=
  requiredAddress "contract.fcp_collateral" config.contracts.tokenCollateral

def tokenAddress (config : Config) : Except Problem Address :=
  requiredAddress "contract.token" config.contracts.token

def firstLine (s : String) : String :=
  let line := s.toList.takeWhile (· ≠ '\n')
  String.ofList
    (if line.length < s.length ∧ line.getLast? = some '\r' then line.dropLast else line)

/-- The address of the provider account: configured, or else in the first line of a file. -/
def accountAddress (config : Config) (folder : String) (files : Storage.Files) :
    Except Problem Address :=
  if Text.Blank.trim config.contracts.account.toList ≠ [] then
    requiredAddress "contract.cp_account" config.contracts.account
  else
    let path := Storage.Path.join folder "account"
    match files.readText path with
    | .error fault =>
      .error (.during
        ("account contract address not configured and " ++ path ++ " is unreadable")
        (.plain fault.message))
    | .ok content =>
      Problem.whileDoing ("invalid account contract address in " ++ path)
        (Problem.ofFailure (Address.parse (firstLine content)))

def keystorePath (config : Config) (folder : String) : String :=
  Storage.Path.join folder config.keys.folder

def waiter (config : Config) : Waiter :=
  ⟨config.keys.pollInterval * 1000, config.keys.confirmationTimeout * 1000⟩

def timeLimit (config : Config) : Millis :=
  config.keys.operationTimeout * 1000

def timings (config : Config) : List (String × Nat) :=
  [("wallet.poll_interval_secs", config.keys.pollInterval),
   ("wallet.confirmation_timeout_secs", config.keys.confirmationTimeout),
   ("wallet.operation_timeout_secs", config.keys.operationTimeout)]

/-- Whether all timings are positive; the first that is not is named. -/
def validate (config : Config) : Except Problem Unit :=
  match config.timings.find? fun (_, value) => value = 0 with
  | some (field, _) => .error (.plain (field ++ " must be greater than zero"))
  | none => .ok ()

/-- What is shown of the hub: not the token. -/
def shownHub (config : Config) : String :=
  let token := if config.hub.token = "" then "" else "<redacted>"
  "HubConfig \x7b server_url: " ++ quote config.hub.url ++ ", access_token: " ++ quote token ++
    " \x7d"

end Config

end ProviderWallet
