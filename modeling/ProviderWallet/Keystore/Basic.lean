import ProviderWallet.Key

namespace ProviderWallet

structure Fresh where
  salt : BitVec 128
  nonce : BitVec 96
  /-- Tells the file that a record is first written to from all others. -/
  staging : BitVec 64
  deriving DecidableEq, Repr

/-- A way to use records that are kept in a `σ`. A record is never overwritten. -/
structure Keystore (σ : Type) where
  get : σ → (name : String) → Except Failure (Option KeyText)
  put : Fresh → σ → (name : String) → KeyText → Except Failure Unit × σ
  delete : σ → (name : String) → Except Failure Unit × σ
  /-- The names of the records, in order. -/
  list : σ → Except Failure (List String)

end ProviderWallet
