import ProviderWallet.Contract.Account
import ProviderWallet.Json.Writer
import ProviderWallet.Key
import ProviderWallet.Problem
import ProviderWallet.Table
import ProviderWallet.Transaction.Basic

namespace ProviderWallet.Command

inductive Report where
  | made (owner : Address)
  | imported (owner : Address)
  | deleted (owner : Address)
  | secret (key : KeyText)
  | signed (signature : String)
  | verified
  | sent (hash : TxHash)
  | balances (rows : List Row)
  | collateral (rows : List Row)
  | account (state : Contract.Account.State)

namespace Report

def done (what : String) : String :=
  "✓ " ++ what

def listing (json : Bool) (table : List Row → String) (rows : List Row) : String :=
  if json then (Json.array (rows.map Row.json)).text
  else if rows = [] then "No wallets found."
  else table rows

def accountText (s : Contract.Account.State) : String :=
  String.intercalate "\n"
    ["Owner:        " ++ s.owner.text,
     "Node ID:      " ++ s.node,
     "Multiaddrs:   " ++ String.intercalate ", " s.addresses,
     "UBI flag:     " ++ Decimal.text s.flag.toNat,
     "Beneficiary:  " ++ s.beneficiary.text,
     "Quota:        " ++ Decimal.text s.quota.toNat,
     "Expiration:   " ++ Decimal.text s.expiration.toNat]

def body (json : Bool) : Report → String
  | made owner => owner.text
  | imported owner => done ("imported " ++ owner.text)
  | deleted owner => done ("deleted " ++ owner.text)
  | secret key => key.text
  | signed signature => signature
  | verified => done "signature is valid"
  | sent hash => if json then (Json.object [("tx_hash", .string hash.text)]).text else hash.text
  | balances rows => listing json Table.ofWallets rows
  | collateral rows => listing json Table.ofCollateral rows
  | account state => if json then state.json.text else accountText state

def output (json : Bool) (r : Report) : String :=
  r.body json ++ "\n"

def warning : Report → String
  | secret _ => "⚠ the private key below grants full control of this address\n"
  | _ => ""

end Report

def problemText (json : Bool) (p : Problem) : String :=
  if json then (Json.object [("error", .string p.advice)]).text ++ "\n"
  else "Error: " ++ p.advice ++ "\n"

/-- What is written to the standard error about a panic, whatever the user asks for. -/
def panicText (message : String) : String :=
  "thread 'main' panicked: " ++ message ++ "\n"

end ProviderWallet.Command
