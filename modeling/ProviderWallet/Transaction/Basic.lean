import ProviderWallet.Amount
import ProviderWallet.Fee
import ProviderWallet.Key

namespace ProviderWallet

structure TxHash where
  value : BitVec 256
  deriving DecidableEq, Repr

namespace TxHash

def text (hash : TxHash) : String :=
  Text.Hex.encodeMarked (Bytes.ofNat 32 hash.value.toNat)

end TxHash

structure Transaction where
  sender : Address
  recipient : Address
  input : Bytes
  /-- What the recipient is paid; nothing is said about it unless something is to be paid. -/
  value : Option Wei
  nonce : UInt64
  chainId : UInt64
  feeCap : Fee.Price
  tipCap : Fee.Price
  deriving DecidableEq, Repr

structure Transaction.Parameters where
  signer : SecretKey
  nonce : UInt64
  chainId : UInt64
  feeCap : Fee.Price
  tipCap : Fee.Price
  value : Option Wei

def Transaction.Parameters.complete (p : Parameters) (recipient : Address) (input : Bytes) :
    Transaction where
  sender := p.signer.address
  recipient := recipient
  input := input
  value := p.value
  nonce := p.nonce
  chainId := p.chainId
  feeCap := p.feeCap
  tipCap := p.tipCap

end ProviderWallet
