import ProviderWallet.Config.Basic
import ProviderWallet.Toml.Reader

namespace ProviderWallet.Config

open Toml (Value)

/-- The fields of a record: the entries of a table, or the items of an array in the order of the
names. A point in time counts as a table without any of the names. -/
def fieldsOf? (names : List String) : Value → Option (List (String × Value))
  | .table entries => some entries
  | .array items => some (names.zip items)
  | .dateTime _ => some []
  | _ => none

def fieldOr {α : Type} (fields : List (String × Value)) (name : String) (other : α)
    (read? : Value → Option α) : Option α :=
  match fields.lookup name with
  | none => some other
  | some v => read? v

def text? : Value → Option String
  | .string s => some s
  | _ => none

def nat? : Value → Option Nat
  | .integer n => if 0 ≤ n then some n.toNat else none
  | _ => none

def timeName : String := "$__toml_private_datetime"

def texts? : Value → Option (List (String × String))
  | .table entries => entries.mapM fun (name, v) => do return (name, ← text? v)
  | .dateTime text => some [(timeName, text)]
  | _ => none

def chain? (other : Chain) (v : Value) : Option Chain := do
  let fields ← fieldsOf? ["default", "rpc"] v
  return ⟨← fieldOr fields "default" other.default text?,
    ← fieldOr fields "rpc" other.endpoints texts?⟩

def contracts? (other : Contracts) (v : Value) : Option Contracts := do
  let fields ← fieldsOf? ["collateral", "fcp_collateral", "token", "cp_account"] v
  return ⟨← fieldOr fields "collateral" other.collateral text?,
    ← fieldOr fields "fcp_collateral" other.tokenCollateral text?,
    ← fieldOr fields "token" other.token text?,
    ← fieldOr fields "cp_account" other.account text?⟩

def hub? (other : Hub.Endpoint) (v : Value) : Option Hub.Endpoint := do
  let fields ← fieldsOf? ["server_url", "access_token"] v
  return ⟨← fieldOr fields "server_url" other.url text?,
    ← fieldOr fields "access_token" other.token text?⟩

def keys? (other : Keys) (v : Value) : Option Keys := do
  let fields ← fieldsOf?
    ["keystore_dir", "poll_interval_secs", "confirmation_timeout_secs",
     "operation_timeout_secs"] v
  return ⟨← fieldOr fields "keystore_dir" other.folder text?,
    ← fieldOr fields "poll_interval_secs" other.pollInterval nat?,
    ← fieldOr fields "confirmation_timeout_secs" other.confirmationTimeout nat?,
    ← fieldOr fields "operation_timeout_secs" other.operationTimeout nat?⟩

def ofEntries? (entries : List (String × Value)) : Option Config := do
  return ⟨← fieldOr entries "chain" standard.chain (chain? standard.chain),
    ← fieldOr entries "contract" standard.contracts (contracts? standard.contracts),
    ← fieldOr entries "hub" standard.hub (hub? standard.hub),
    ← fieldOr entries "wallet" standard.keys (keys? standard.keys)⟩

def read? (s : String) : Option Config := do
  ofEntries? (← Toml.read? s)

end ProviderWallet.Config
