import ProviderWallet.Rpc.Query
import ProviderWallet.Rpc.Result
import ProviderWallet.Transaction.Wire

namespace ProviderWallet.Rpc

/-- Queries, each with what follows for every reply. Most questions are one query; handing a
transaction over takes two, the first of which tells how much gas it takes. -/
inductive Exchange (α : Type) where
  | done (result : α)
  | query (q : Query) (next : Reply → Exchange α)

namespace Exchange

def single {α : Type} (q : Query) (read? : Json → Option α) : Exchange (Except String α) :=
  query q fun reply => done (resultOf read? reply)

def submit (signer : SecretKey) (tx : Transaction) (gas : UInt64) :
    Exchange (Except String TxHash) :=
  match tx.sign gas signer with
  | .error f => done (.error f.message)
  | .ok wire => single (.submit wire) hash?

def send (signer : SecretKey) (tx : Transaction) : Exchange (Except String TxHash) :=
  query (.gas tx) fun reply =>
    match resultOf word64? reply with
    | .error reason => done (.error reason)
    | .ok gas => submit signer tx gas

def ofCall : (call : Node.Call) → Exchange call.Answer
  | .pendingNonce account => single (.nonce account) word64?
  | .gasPrice => single .gasPrice price?
  | .gasTip => single .gasTip price?
  | .chainId => single .chainId word64?
  | .receipt hash => single (.receipt hash) receipt?
  | .send signer tx => send signer tx
  | .read contract input => single (.read contract input) bytes?
  | .balance account => single (.balance account) wei?

end Exchange

end ProviderWallet.Rpc
