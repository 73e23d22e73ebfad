import ProviderWallet.Node

namespace ProviderWallet.Rehearsal

inductive Topic where
  | nonce
  | gasPrice
  | gasTip
  | chainId
  | receipt
  | send
  | read
  | balance
  deriving DecidableEq, Repr

def topicOf : Node.Call → Topic
  | .pendingNonce _ => .nonce
  | .gasPrice => .gasPrice
  | .gasTip => .gasTip
  | .chainId => .chainId
  | .receipt _ => .receipt
  | .send .. => .send
  | .read .. => .read
  | .balance _ => .balance

inductive Schedule (α : Type) where
  | always (a : Option α)
  | each (as : List (Option α))
  deriving Repr

def Schedule.at {α : Type} (s : Schedule α) (k : Nat) : Option α :=
  match s with
  | always a => a
  | each as => (as[k]?).join

structure Script where
  /-- The nonce of every account before anything was sent. -/
  nonce : UInt64
  gasPrice : Fee.Price
  gasTip : Fee.Price
  chainId : UInt64
  balances : List (Address × Wei)
  /-- What is found, look-up by look-up; after these there is nothing. -/
  receipts : List (Option Confirmation.Receipt)
  /-- What contracts say, read by read; after these they say nothing. -/
  outputs : List Bytes
  failures : Topic → Schedule String
  delays : Topic → Schedule Nat

namespace Script

def delay (s : Script) (call : Node.Call) (k : Nat) : Nat :=
  ((s.delays (topicOf call)).at k).getD 0

/-- The answer to a question that is the `k`th about its topic, and the transactions that the node
has accepted after it. -/
def answer (s : Script) (sent : List Transaction) (call : Node.Call) (k : Nat) :
    call.Answer × List Transaction :=
  match (s.failures (topicOf call)).at k with
  | some reason => (.error reason, sent)
  | none =>
    match call with
    | .pendingNonce _ => (.ok (s.nonce + UInt64.ofNat sent.length), sent)
    | .gasPrice => (.ok s.gasPrice, sent)
    | .gasTip => (.ok s.gasTip, sent)
    | .chainId => (.ok s.chainId, sent)
    | .receipt _ => (.ok (s.receipts[k]?).join, sent)
    | .send _ tx => (.ok ⟨BitVec.ofNat 256 (sent.length + 1)⟩, sent ++ [tx])
    | .read .. => (.ok (s.outputs.getD k []), sent)
    | .balance account => (.ok ((s.balances.lookup account).getD 0), sent)

end Script

end ProviderWallet.Rehearsal
