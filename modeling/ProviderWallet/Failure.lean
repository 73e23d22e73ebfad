import ProviderWallet.Text.Quoted

namespace ProviderWallet

/-- A failed operation. Addresses and hashes are kept as the texts that messages show. -/
inductive Failure where
  /-- No key is stored for an address that a task needs to act for. -/
  | keyNotFound (address task : String)
  | alreadyExists (address : String)
  | addressFormat (text : String)
  | invalidKey (reason : String)
  | invalidAmount (text : String)
  | keystore (step reason : String)
  /-- The node does not answer, or not in a way that makes sense. -/
  | connection (reason : String)
  | nonceFetch (address reason : String)
  | gasPriceFetch (address reason : String)
  | chainIdFetch (address reason : String)
  | signing (reason : String)
  /-- A transaction was not accepted, or it is not known whether it was. -/
  | submission (address method reason : String)
  | reading (method reason : String)
  | receiptFailed (hash : String)
  | receiptTimeout (hash : String) (seconds : Nat)
  | configuration (reason : String)
  | hub (reason : String)
  /-- The program panics. No caller handles this, so that it ends all that is being done. -/
  | panicked (message : String)
  deriving DecidableEq, Repr

namespace Failure

open Text.Quoted (quote)

def message : Failure → String
  | keyNotFound address task => s!"{task}: no key stored for address {address}"
  | alreadyExists address => s!"wallet address {address} already exists"
  | addressFormat text =>
    "invalid address format: " ++ quote text ++ " (expected 0x followed by 40 hex digits)"
  | invalidKey reason => s!"invalid private key: {reason}"
  | invalidAmount text => "invalid amount: " ++ quote text
  | keystore step reason => s!"keystore {step} failed: {reason}"
  | connection reason => s!"chain connection error: {reason}"
  | nonceFetch address reason =>
    s!"address: {address}, failed to fetch pending nonce: {reason}"
  | gasPriceFetch address reason =>
    s!"address: {address}, failed to fetch suggested gas price: {reason}"
  | chainIdFetch address reason => s!"address: {address}, failed to fetch chain id: {reason}"
  | signing reason => s!"signing failed: {reason}"
  | submission address method reason =>
    s!"address: {address}, {method} transaction failed: {reason}"
  | reading method reason => s!"{method} call failed: {reason}"
  | receiptFailed hash => s!"transaction {hash} failed on-chain"
  | receiptTimeout hash seconds =>
    s!"timeout waiting for transaction confirmation after {seconds}s, tx: {hash}"
  | configuration reason => s!"configuration error: {reason}"
  | hub reason => s!"hub request failed: {reason}"
  | panicked message => message

/-- Whether the same operation may succeed later. A confirmation that did not come in time says
nothing about the outcome; a failed receipt is final. -/
def isRetryable : Failure → Bool
  | receiptTimeout .. | connection .. | nonceFetch .. | gasPriceFetch .. | chainIdFetch .. => true
  | _ => false

def kind : Failure → String
  | keyNotFound .. => "KeyNotFound"
  | alreadyExists .. => "AlreadyExists"
  | addressFormat .. => "InvalidAddressFormat"
  | invalidKey .. => "InvalidKey"
  | invalidAmount .. => "InvalidAmount"
  | keystore .. => "Repository"
  | connection .. => "RpcConnection"
  | nonceFetch .. => "NonceFetch"
  | gasPriceFetch .. => "GasPriceFetch"
  | chainIdFetch .. => "ChainIdFetch"
  | signing .. => "Sign"
  | submission .. => "TransactionSubmit"
  | reading .. => "Call"
  | receiptFailed .. => "ReceiptFailed"
  | receiptTimeout .. => "ReceiptTimeout"
  | configuration .. => "Config"
  | hub .. => "Hub"
  | panicked .. => "Panic"

def fields : Failure → List (String × String)
  | keyNotFound address task => [("address", quote address), ("op", quote task)]
  | keystore step reason => [("op", quote step), ("reason", quote reason)]
  | nonceFetch address reason | gasPriceFetch address reason | chainIdFetch address reason =>
    [("address", quote address), ("reason", quote reason)]
  | submission address method reason =>
    [("address", quote address), ("method", quote method), ("reason", quote reason)]
  | reading method reason => [("method", quote method), ("reason", quote reason)]
  | receiptTimeout hash seconds =>
    [("tx_hash", quote hash), ("waited_secs", toString seconds)]
  | alreadyExists text | addressFormat text | invalidKey text | invalidAmount text
  | connection text | signing text | receiptFailed text | configuration text | hub text
  | panicked text =>
    [("", quote text)]

def describe (f : Failure) : String :=
  match f.fields with
  | [("", value)] => f.kind ++ "(" ++ value ++ ")"
  | fields =>
    f.kind ++ " \x7b " ++ String.intercalate ", " (fields.map fun (name, value) =>
      name ++ ": " ++ value) ++ " \x7d"

end Failure

end ProviderWallet
