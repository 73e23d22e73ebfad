import ProviderWallet.Rlp
import ProviderWallet.Signature
import ProviderWallet.Transaction.Basic

namespace ProviderWallet.Transaction

def typeByte : UInt8 := 2

def number (n : Nat) : Rlp.Item :=
  .bytes (Bytes.minimal n)

def items (tx : Transaction) (gas : UInt64) : List Rlp.Item :=
  [number tx.chainId.toNat, number tx.nonce.toNat, number tx.tipCap.toNat,
   number tx.feeCap.toNat, number gas.toNat, .bytes tx.recipient.bytes,
   number (tx.value.getD 0).toNat, .bytes tx.input, .list []]

def signingDigest (tx : Transaction) (gas : UInt64) : Bytes :=
  Hash.Keccak.hash (typeByte :: Rlp.encode (.list (tx.items gas)))

def signatureItems (s : ProviderWallet.Signature) : List Rlp.Item :=
  [number (if s.odd then 1 else 0), number s.r, number s.s]

def wire (tx : Transaction) (gas : UInt64) (s : ProviderWallet.Signature) : Bytes :=
  typeByte :: Rlp.encode (.list (tx.items gas ++ signatureItems s))

def sign (tx : Transaction) (gas : UInt64) (signer : SecretKey) : Except Failure Bytes :=
  (signer.signDigest (tx.signingDigest gas)).map (tx.wire gas)

structure Signed where
  chainId : Nat
  nonce : Nat
  tipCap : Nat
  feeCap : Nat
  gas : Nat
  recipient : Address
  value : Nat
  input : Bytes
  signature : ProviderWallet.Signature
  deriving DecidableEq

def numberOf? : Rlp.Item → Option Nat
  | .bytes bytes => if bytes.head? = some 0 then none else some (Bytes.toNat bytes)
  | .list _ => none

/-- Reads a signed transaction without an access list. -/
def Signed.read? : Bytes → Option Signed
  | [] => none
  | type :: bytes => do
    if type ≠ typeByte then none
    else
      match ← Rlp.decode? bytes with
      | .list [chainId, nonce, tipCap, feeCap, gas, .bytes recipient, value, .bytes input,
          .list [], odd, r, s] =>
        let parity ← numberOf? odd
        if recipient.length ≠ 20 ∨ 1 < parity then none
        else
          return {
            chainId := ← numberOf? chainId
            nonce := ← numberOf? nonce
            tipCap := ← numberOf? tipCap
            feeCap := ← numberOf? feeCap
            gas := ← numberOf? gas
            recipient := Address.ofBytes recipient
            value := ← numberOf? value
            input := input
            signature := ⟨← numberOf? r, ← numberOf? s, parity = 1⟩ }
      | _ => none

end ProviderWallet.Transaction
