import ProviderWallet.Bytes

namespace ProviderWallet.Curve.Secp256k1

def fieldPrime : Nat := 0xfffffffffffffffffffffffffffffffffffffffffffffffffffffffefffffc2f

def order : Nat := 0xfffffffffffffffffffffffffffffffebaaedce6af48a03bbfd25e8cd0364141

def powerMod (m base exponent : Nat) : Nat :=
  (List.range 256).foldl (fun acc i =>
    let square := acc * acc % m
    if exponent.testBit (255 - i) then square * base % m else square) 1

def inverseMod (m a : Nat) : Nat :=
  powerMod m a (m - 2)

inductive Point where
  | infinity
  | affine (x y : Nat)
  deriving DecidableEq, Repr

/-- A point as a ratio: `x / z ^ 2` and `y / z ^ 3`, at infinity when `z` is zero. -/
structure Jacobian where
  (x y z : Nat)

namespace Jacobian

def infinity : Jacobian := ⟨1, 1, 0⟩

def ofPoint : Point → Jacobian
  | .infinity => infinity
  | .affine x y => ⟨x, y, 1⟩

def toPoint (a : Jacobian) : Point :=
  if a.z = 0 then .infinity
  else
    let p := fieldPrime
    let i := inverseMod p a.z
    let i2 := i * i % p
    .affine (a.x * i2 % p) (a.y * (i2 * i % p) % p)

def minus (a b : Nat) : Nat :=
  (a + (fieldPrime - b)) % fieldPrime

def double (a : Jacobian) : Jacobian :=
  let p := fieldPrime
  if a.z = 0 ∨ a.y = 0 then infinity
  else
    let yy := a.y * a.y % p
    let s := 4 * a.x * yy % p
    let m := 3 * a.x * a.x % p
    let x := minus (m * m % p) (2 * s % p)
    let y := minus (m * minus s x % p) (8 * yy * yy % p)
    ⟨x, y, 2 * a.y * a.z % p⟩

def add (a b : Jacobian) : Jacobian :=
  let p := fieldPrime
  if a.z = 0 then b
  else if b.z = 0 then a
  else
    let za := a.z * a.z % p
    let zb := b.z * b.z % p
    let ua := a.x * zb % p
    let ub := b.x * za % p
    let sa := a.y * zb % p * b.z % p
    let sb := b.y * za % p * a.z % p
    if ua = ub then
      if sa = sb then double a else infinity
    else
      let h := minus ub ua
      let r := minus sb sa
      let hh := h * h % p
      let hhh := h * hh % p
      let v := ua * hh % p
      let x := minus (minus (r * r % p) hhh) (2 * v % p)
      let y := minus (r * minus v x % p) (sa * hhh % p)
      ⟨x, y, h * a.z % p * b.z % p⟩

def scale (k : Nat) (a : Jacobian) : Jacobian :=
  (List.range 256).foldl (fun acc i =>
    let twice := acc.double
    if k.testBit (255 - i) then twice.add a else twice) infinity

end Jacobian

def generator : Point :=
  .affine 0x79be667ef9dcbbac55a06295ce870b07029bfcdb2dce28d959f2815b16f81798
    0x483ada7726a3c4655da4fbfc0e1108a8fd17b448a68554199c47d08ffb10d4b8

def Point.scale (k : Nat) (a : Point) : Point :=
  ((Jacobian.ofPoint a).scale k).toPoint

def Point.add (a b : Point) : Point :=
  ((Jacobian.ofPoint a).add (Jacobian.ofPoint b)).toPoint

def Point.lift (x : Nat) (odd : Bool) : Option Point :=
  let p := fieldPrime
  let yy := (x * x % p * x + 7) % p
  let y := powerMod p yy ((p + 1) / 4)
  if x < p ∧ y * y % p = yy then
    some (.affine x (if (y % 2 = 1) = odd then y else (p - y) % p))
  else none

end ProviderWallet.Curve.Secp256k1
