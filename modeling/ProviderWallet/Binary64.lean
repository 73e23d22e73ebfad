import ProviderWallet.Decimal

namespace ProviderWallet

/-- The number `mantissa * 2 ^ exponent`. Numbers made by rounding have a mantissa of at most 53
bits, and of exactly 53 bits unless the exponent is the least one. -/
structure Binary64 where
  mantissa : Nat
  exponent : Int
  deriving DecidableEq, Repr

namespace Binary64

def minExponent : Int := -1074

def maxExponent : Int := 971

def zero : Binary64 := ⟨0, minExponent⟩

def powerOfTwo (e : Int) : Nat × Nat :=
  if 0 ≤ e then (Nat.pow 2 e.toNat, 1) else (1, Nat.pow 2 (-e).toNat)

/-- The nearest integer to a ratio; a half goes to the even neighbour. -/
def roundDiv (num den : Nat) : Nat :=
  let q := num / den
  let r := num % den
  if 2 * r < den then q
  else if den < 2 * r then q + 1
  else if q % 2 = 0 then q else q + 1

def ofRatio (num den : Nat) : Option Binary64 :=
  if num = 0 ∨ den = 0 then some zero
  else
    let guess : Int := (Nat.log2 num : Int) - Nat.log2 den - 53
    let fits (e : Int) : Bool :=
      let (a, b) := powerOfTwo e
      num * b < Nat.pow 2 53 * den * a
    let e := max (if fits guess then guess else guess + 1) minExponent
    let (a, b) := powerOfTwo e
    let m := roundDiv (num * b) (den * a)
    let (m, e) := if m = Nat.pow 2 53 then (Nat.pow 2 52, e + 1) else (m, e)
    if maxExponent < e then none else some ⟨m, e⟩

def ratio (x : Binary64) : Nat × Nat :=
  let (a, b) := powerOfTwo x.exponent
  (x.mantissa * a, b)

def mul (x y : Binary64) : Option Binary64 :=
  let (a, b) := x.ratio
  let (c, d) := y.ratio
  ofRatio (a * c) (b * d)

def div (x y : Binary64) : Option Binary64 :=
  let (a, b) := x.ratio
  let (c, d) := y.ratio
  ofRatio (a * d) (b * c)

def toNat? (x : Binary64) : Option Nat :=
  let (a, b) := x.ratio
  if a % b = 0 then some (a / b) else none

/-- Whether the ratio lies between the neighbours' midpoints, so that it rounds to the number. The
midpoints belong to it when the mantissa is even. -/
def rounds (x : Binary64) (num den : Nat) : Bool :=
  -- In quarters of the last place, the number is at `4 * mantissa`.
  let (a, b) := powerOfTwo x.exponent
  let low := if x.mantissa = Nat.pow 2 52 ∧ minExponent < x.exponent then 4 * x.mantissa - 1
    else 4 * x.mantissa - 2
  let high := 4 * x.mantissa + 2
  let place := 4 * num * b
  let unit := den * a
  if x.mantissa % 2 = 0 then low * unit ≤ place && place ≤ high * unit
  else low * unit < place && place < high * unit

def powerOfTen (k : Int) : Nat × Nat :=
  if 0 ≤ k then (Nat.pow 10 k.toNat, 1) else (1, Nat.pow 10 (-k).toNat)

/-- The multiple of `10 ^ k` nearest to the number among its two neighbours on that grid that round
to it, if any does. -/
def onGrid (x : Binary64) (k : Int) : Option Nat :=
  let (a, b) := x.ratio
  let (t, u) := powerOfTen k
  let q := a * u / (b * t)
  let r := a * u % (b * t)
  let low := x.rounds (q * t) u
  let high := x.rounds ((q + 1) * t) u
  if low && high then
    if 2 * r < b * t then some q
    else if b * t < 2 * r then some (q + 1)
    else if q % 2 = 0 then some q else some (q + 1)
  else if low then some q
  else if high then some (q + 1)
  else none

def leadingPlace (x : Binary64) : Int :=
  let (a, b) := x.ratio
  let guess : Int := ((Nat.log2 a : Int) - Nat.log2 b - 1) * 1233 / 4096 - 1
  let below (p : Int) : Bool :=
    let (t, u) := powerOfTen p
    a * u < b * t
  ((List.range 5).map fun (i : Nat) => guess + Int.ofNat i).find? below |>.getD (guess + 5)

/-- The shortest digits `d` and exponent `k` with `d * 10 ^ k` rounding to a positive number, the
nearest of that length. -/
def shortest (x : Binary64) : Nat × Int :=
  let p := x.leadingPlace
  ((List.range 17).findSome? fun (i : Nat) =>
    let k := p - Int.ofNat i - 1
    (x.onGrid k).map fun d => if d % 10 = 0 then (d / 10, k + 1) else (d, k)).getD (0, 0)

/-- The decimal text of a number: positional with at least one place where the point is within 16
digits after or 4 zeros before the first digit, with an exponent elsewhere. -/
def text (x : Binary64) : String :=
  if x.mantissa = 0 then "0.0"
  else
    let (d, k) := x.shortest
    let digits := Decimal.digits d
    let point := (digits.length : Int) + k
    if 0 ≤ k ∧ point ≤ 16 then
      String.ofList (digits ++ List.replicate k.toNat '0') ++ ".0"
    else if 0 < point ∧ point ≤ 16 then
      String.ofList (digits.take point.toNat ++ '.' :: digits.drop point.toNat)
    else if -5 < point ∧ point ≤ 0 then
      "0." ++ String.ofList (List.replicate (-point).toNat '0' ++ digits)
    else
      let e := point - 1
      let mark := if 0 ≤ e then "e+" else "e-"
      let places := digits.drop 1
      String.ofList (digits.take 1 ++ if places = [] then [] else '.' :: places) ++ mark ++
        Decimal.text e.natAbs

end Binary64

end ProviderWallet
