import ProviderWallet.Json.Writer
import ProviderWallet.Node
import ProviderWallet.Quantity

namespace ProviderWallet.Rpc

open Quantity (marked)

structure Query where
  method : String
  /-- There is no list at all if a method has no parameters. -/
  params : Option (List Json)

namespace Query

def body (q : Query) : String :=
  (Json.object
    ([("method", .string q.method)] ++ (q.params.map fun ps => ("params", .array ps)).toList ++
      [("id", .ofNat 0), ("jsonrpc", .string "2.0")])).text

/-- The state that is asked about: that after all transactions known to the node. -/
def pending : Json := .string "pending"

def address (account : Address) : Json := .string account.lowerText

def nonce (account : Address) : Query :=
  ⟨"eth_getTransactionCount", some [address account, pending]⟩

def gasPrice : Query := ⟨"eth_gasPrice", none⟩

def gasTip : Query := ⟨"eth_maxPriorityFeePerGas", none⟩

def chainId : Query := ⟨"eth_chainId", none⟩

def receipt (hash : TxHash) : Query :=
  ⟨"eth_getTransactionReceipt", some [.string hash.text]⟩

def read (contract : Address) (input : Bytes) : Query :=
  ⟨"eth_call", some
    [.object [("to", address contract), ("input", .string (Text.Hex.encodeMarked input))],
     pending]⟩

def balance (account : Address) : Query :=
  ⟨"eth_getBalance", some [address account, .string "latest"]⟩

def transaction (tx : Transaction) : Json :=
  .object
    ([("from", address tx.sender), ("to", address tx.recipient),
      ("maxFeePerGas", .string (marked tx.feeCap.toNat)),
      ("maxPriorityFeePerGas", .string (marked tx.tipCap.toNat))] ++
     (tx.value.map fun v => ("value", Json.string (marked v.toNat))).toList ++
     [("input", .string (Text.Hex.encodeMarked tx.input)),
      ("nonce", .string (marked tx.nonce.toNat)),
      ("chainId", .string (marked tx.chainId.toNat))])

def gas (tx : Transaction) : Query :=
  ⟨"eth_estimateGas", some [transaction tx, pending]⟩

def submit (wire : Bytes) : Query :=
  ⟨"eth_sendRawTransaction", some [.string (Text.Hex.encodeMarked wire)]⟩

end Query

end ProviderWallet.Rpc
