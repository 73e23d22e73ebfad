import ProviderWallet.Decimal
import ProviderWallet.Failure
import ProviderWallet.Quantity
import ProviderWallet.Text.Blank

namespace ProviderWallet.Amount

open Text

def places : Nat := 18

def shownPlaces : Nat := 5

def token : Wei := BitVec.ofNat 256 (Nat.pow 10 places)

/-- The places of an amount that are shown, as a number. Further ones are cut off. -/
def shownPart (wei : Wei) : Wei :=
  wei % token * BitVec.ofNat 256 (Nat.pow 10 shownPlaces) / token

/-- The text of an amount: whole tokens and five places. Zero is shorter. -/
def format (wei : Wei) : String :=
  if wei = 0 then "0.0"
  else
    String.ofList (Decimal.digits (wei / token).toNat ++ '.' ::
      Decimal.filled shownPlaces (shownPart wei).toNat)

def splitPoint : List Char → List Char × List Char
  | [] => ([], [])
  | c :: cs =>
    if c = '.' then ([], cs)
    else
      let (whole, frac) := splitPoint cs
      (c :: whole, frac)

def times? (a b : Wei) : Option Wei :=
  if BitVec.umulOverflow a b then none else some (a * b)

def plus? (a b : Wei) : Option Wei :=
  if BitVec.uaddOverflow a b then none else some (a + b)

def word? (cs : List Char) : Option Wei :=
  (Quantity.read (String.ofList cs)).toOption

def units? (whole frac : List Char) : Option Wei := do
  let tokens ← word? (if whole = [] then ['0'] else whole)
  let rest ← word? (frac ++ List.replicate (places - frac.length) '0')
  plus? (← times? tokens token) rest

/-- Reads an amount of tokens. It is exact; signs, exponents and more than 18 places are refused,
and so is an amount that does not fit. -/
def parse (s : String) : Except Failure Wei :=
  let (whole, frac) := splitPoint (Blank.trim s.toList)
  if (whole = [] ∧ frac = []) ∨ !whole.all Decimal.isDigit ∨ !frac.all Decimal.isDigit ∨
      places < frac.length then .error (.invalidAmount s)
  else
    match units? whole frac with
    | some amount => .ok amount
    | none => .error (.invalidAmount s)

end ProviderWallet.Amount
