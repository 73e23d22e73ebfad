import ProviderWallet.Curve.Ecdsa
import ProviderWallet.Key

namespace ProviderWallet

namespace Signature

/-- The parity that the last byte of a signature stands for: 0 and 1, 27 and 28, and from 35 on
the bytes that also carry a chain id. -/
def parity? (v : UInt8) : Option Bool :=
  if v = 0 ∨ v = 27 then some false
  else if v = 1 ∨ v = 28 then some true
  else if 35 ≤ v then some ((v - 35) % 2 = 1)
  else none

def bytes (s : Signature) : Bytes :=
  Bytes.ofNat 32 s.r ++ Bytes.ofNat 32 s.s ++ [if s.odd then 28 else 27]

def ofBytes? (bytes : Bytes) : Option Signature :=
  if bytes.length = 65 then
    (parity? (bytes.getD 64 0)).map fun odd =>
      ⟨Bytes.toNat (bytes.take 32), Bytes.toNat ((bytes.drop 32).take 32), odd⟩
  else none

def signer? (s : Signature) (digest : Bytes) : Option Address :=
  (Curve.Ecdsa.recover s digest).map Address.ofPoint

def verify (account : Address) (signature message : Bytes) : Bool :=
  match ofBytes? signature with
  | none => false
  | some s => s.signer? (Hash.Keccak.hash message) = some account

end Signature

def SecretKey.signDigest (key : SecretKey) (digest : Bytes) : Except Failure Signature :=
  match Curve.Ecdsa.sign key.scalar digest with
  | some s => .ok s
  | none => .error (.signing "signature error")

def SecretKey.signMessage (key : SecretKey) (message : Bytes) : Except Failure Bytes :=
  (key.signDigest (Hash.Keccak.hash message)).map Signature.bytes

end ProviderWallet
