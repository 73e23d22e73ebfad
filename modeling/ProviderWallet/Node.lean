import ProviderWallet.Confirmation
import ProviderWallet.Transaction.Basic

namespace ProviderWallet.Node

inductive Call where
  /-- The nonce that the next transaction of an account has to carry. -/
  | pendingNonce (account : Address)
  | gasPrice
  | gasTip
  | chainId
  | receipt (hash : TxHash)
  | send (signer : SecretKey) (tx : Transaction)
  | read (contract : Address) (input : Bytes)
  | balance (account : Address)

abbrev Call.Reply : Call → Type
  | .pendingNonce _ | .chainId => UInt64
  | .gasPrice | .gasTip => Fee.Price
  | .receipt _ => Option Confirmation.Receipt
  | .send .. => TxHash
  | .read .. => Bytes
  | .balance _ => Wei

abbrev Call.Answer (call : Call) : Type :=
  Except String call.Reply

end ProviderWallet.Node
