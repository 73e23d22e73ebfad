import ProviderWallet.Curve.Secp256k1
import ProviderWallet.Hash.Sha256

namespace ProviderWallet

/-- Two numbers below the order of the curve and the parity of the second coordinate of the point
that the first stands for. -/
structure Signature where
  r : Nat
  s : Nat
  odd : Bool
  deriving DecidableEq, Repr

end ProviderWallet

namespace ProviderWallet.Curve.Ecdsa

open Secp256k1 (Point generator order fieldPrime inverseMod)

/-- The state of the generator of secret multipliers. It starts from the key and the digest, so that
signing the same digest again gives the same signature. -/
structure Drbg where
  key : Bytes
  value : Bytes

namespace Drbg

def reseed (g : Drbg) (mark : UInt8) (data : Bytes) : Drbg :=
  let key := Hash.Sha256.keyed g.key (g.value ++ mark :: data)
  ⟨key, Hash.Sha256.keyed key g.value⟩

def seeded (secret digest : Nat) : Drbg :=
  let data := Bytes.ofNat 32 secret ++ Bytes.ofNat 32 digest
  let start : Drbg := ⟨List.replicate 32 0, List.replicate 32 1⟩
  (start.reseed 0 data).reseed 1 data

def next (g : Drbg) : Nat × Drbg :=
  let value := Hash.Sha256.keyed g.key g.value
  (Bytes.toNat value, { g with value := value })

end Drbg

/-- The signature with a given multiplier, if that multiplier is usable. The second number is
brought into the lower half of its range. -/
def signWith (secret digest k : Nat) : Option Signature :=
  if k = 0 ∨ order ≤ k then none
  else
    match generator.scale k with
    | .infinity => none
    | .affine x y =>
      let r := x % order
      let s := inverseMod order k * (digest + r * secret) % order
      if r = 0 ∨ s = 0 then none
      else if order / 2 < s then some ⟨r, order - s, y % 2 = 0⟩
      else some ⟨r, s, y % 2 = 1⟩

/-- Tries the candidates in turn. Nearly every candidate is usable, so the bound on their number
is never reached. -/
def search (secret digest : Nat) : (attempts : Nat) → Drbg → Option Signature
  | 0, _ => none
  | attempts + 1, g =>
    let (k, g) := g.next
    match signWith secret digest k with
    | some signature => some signature
    | none => search secret digest attempts (g.reseed 0 [])

def sign (secret : Nat) (digest : Bytes) : Option Signature :=
  let z := Bytes.toNat digest % order
  search secret z 128 (Drbg.seeded secret z)

def recover (signature : Signature) (digest : Bytes) : Option Point :=
  if signature.r = 0 ∨ order ≤ signature.r ∨ signature.s = 0 ∨ order ≤ signature.s then none
  else do
    let point ← Point.lift signature.r signature.odd
    let z := Bytes.toNat digest % order
    let inverse := inverseMod order signature.r
    let u1 := (order - z) % order * inverse % order
    let u2 := signature.s * inverse % order
    match (generator.scale u1).add (point.scale u2) with
    | .infinity => none
    | key => some key

end ProviderWallet.Curve.Ecdsa
