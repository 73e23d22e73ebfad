namespace ProviderWallet.Decimal

def isDigit (c : Char) : Bool :=
  48 ≤ c.toNat && c.toNat ≤ 57

def digitValue (c : Char) : Nat :=
  c.toNat - 48

def digit (n : Nat) : Char :=
  Char.ofNat (48 + n)

def value (cs : List Char) : Nat :=
  cs.foldl (fun n c => n * 10 + digitValue c) 0

def digits (n : Nat) : List Char :=
  if _h : n < 10 then [digit n] else digits (n / 10) ++ [digit (n % 10)]
termination_by n
decreasing_by omega

def padded : (width : Nat) → (n : Nat) → List Char
  | 0, _ => []
  | width + 1, n => padded width (n / 10) ++ [digit (n % 10)]

def filled (width n : Nat) : List Char :=
  List.replicate (width - (digits n).length) '0' ++ digits n

def text (n : Nat) : String :=
  String.ofList (digits n)

def read? (cs : List Char) : Option Nat :=
  if cs ≠ [] ∧ cs.all isDigit then some (value cs) else none

end ProviderWallet.Decimal
