import ProviderWallet.Toml.Text

namespace ProviderWallet.Toml

def moreDigits (isDigit : Char → Bool) : Chars → Option (Chars × Chars)
  | '_' :: d :: cs =>
    if isDigit d then (moreDigits isDigit cs).map fun (ds, rest) => (d :: ds, rest) else none
  | ['_'] => none
  | c :: cs =>
    if isDigit c then (moreDigits isDigit cs).map fun (ds, rest) => (c :: ds, rest)
    else some ([], c :: cs)
  | [] => some ([], [])

def readDigits (isDigit : Char → Bool) : Chars → Option (Chars × Chars)
  | c :: cs =>
    if isDigit c then (moreDigits isDigit cs).map fun (ds, rest) => (c :: ds, rest) else none
  | [] => none

def isDigitOf (base : Nat) (c : Char) : Bool :=
  match Text.Hex.charValue? c with
  | some v => v < base
  | none => false

def valueOf (base : Nat) (ds : Chars) : Nat :=
  ds.foldl (fun n c => n * base + (Text.Hex.charValue? c).getD 0) 0

def integer? (n : Int) : Option Value :=
  if -(Nat.pow 2 63 : Int) ≤ n ∧ n < (Nat.pow 2 63 : Int) then some (.integer n) else none

def readMarked (base : Nat) (cs : Chars) : Option (Value × Chars) := do
  let (ds, rest) ← readDigits (isDigitOf base) cs
  return (← integer? (valueOf base ds), rest)

def readSign : Chars → Bool × Chars
  | '-' :: cs => (true, cs)
  | '+' :: cs => (false, cs)
  | cs => (false, cs)

def readWhole : Chars → Option (Chars × Chars)
  | '0' :: cs => some (['0'], cs)
  | cs => readDigits Decimal.isDigit cs

def overflows (digits : Chars) (exponent : Int) : Bool :=
  let m := Decimal.value digits
  let size := (Decimal.digits m).length + exponent
  if m = 0 ∨ size < 300 then false
  else if 400 < size then true
  else
    let bound := Nat.pow 2 1024 - Nat.pow 2 970
    if 0 ≤ exponent then bound ≤ m * Nat.pow 10 exponent.toNat
    else bound * Nat.pow 10 (-exponent).toNat ≤ m

def readPlaces : Chars → Option (Chars × Chars)
  | '.' :: cs => readDigits Decimal.isDigit cs
  | cs => some ([], cs)

def readExponent : Chars → Option (Int × Chars)
  | c :: cs =>
    if c = 'e' || c = 'E' then do
      let (negative, cs) := readSign cs
      let (ds, rest) ← readDigits Decimal.isDigit cs
      let e : Int := Decimal.value ds
      return (if negative then -e else e, rest)
    else some (0, c :: cs)
  | [] => some (0, [])

/-- A number after its sign. A positive number must not be too large; a negative one may. -/
def readUnsigned (negative : Bool) (cs : Chars) : Option (Value × Chars) := do
  let (whole, rest) ← readWhole cs
  match rest with
  | c :: _ =>
    if c = '.' || c = 'e' || c = 'E' then
      let (places, rest) ← readPlaces rest
      let (exponent, rest) ← readExponent rest
      if !negative && overflows (whole ++ places) (exponent - places.length) then none
      else return (.float, rest)
    else return (← integer? (signed whole), rest)
  | [] => return (← integer? (signed whole), rest)
where
  signed (whole : Chars) : Int :=
    if negative then -(Decimal.value whole : Int) else Decimal.value whole

def readNumber : Chars → Option (Value × Chars)
  | '0' :: 'x' :: cs => readMarked 16 cs
  | '0' :: 'o' :: cs => readMarked 8 cs
  | '0' :: 'b' :: cs => readMarked 2 cs
  | cs =>
    match readSign cs with
    | (_, 'i' :: 'n' :: 'f' :: rest) => some (.float, rest)
    | (_, 'n' :: 'a' :: 'n' :: rest) => some (.float, rest)
    | (negative, rest) => readUnsigned negative rest

def readFixed (count : Nat) (cs : Chars) : Option (Nat × Chars) :=
  let ds := cs.take count
  if ds.length = count ∧ ds.all Decimal.isDigit then some (Decimal.value ds, cs.drop count)
  else none

def readPair (low high : Nat) (cs : Chars) : Option (Nat × Chars) := do
  let (n, rest) ← readFixed 2 cs
  if low ≤ n ∧ n ≤ high then some (n, rest) else none

def daysIn (year month : Nat) : Nat :=
  if month = 2 then
    if year % 4 = 0 ∧ (year % 100 ≠ 0 ∨ year % 400 = 0) then 29 else 28
  else if month = 4 ∨ month = 6 ∨ month = 9 ∨ month = 11 then 30
  else 31

def padded (width n : Nat) : Chars :=
  Decimal.padded width n

def readDate (cs : Chars) : Option (Chars × Chars) := do
  let (year, cs) ← readFixed 4 cs
  let '-' :: cs := cs | none
  let (month, cs) ← readPair 1 12 cs
  let '-' :: cs := cs | none
  let (day, cs) ← readPair 1 31 cs
  if daysIn year month < day then none
  else return (padded 4 year ++ '-' :: padded 2 month ++ '-' :: padded 2 day, cs)

def fractionText (ds : Chars) : Chars :=
  match ((ds.take 9).reverse.dropWhile (· = '0')).reverse with
  | [] => []
  | ds => '.' :: ds

def readFraction : Chars → Chars × Chars
  | '.' :: c :: cs =>
    if Decimal.isDigit c then
      (fractionText ((c :: cs).takeWhile Decimal.isDigit), (c :: cs).dropWhile Decimal.isDigit)
    else ([], '.' :: c :: cs)
  | cs => ([], cs)

def readTime (cs : Chars) : Option (Chars × Chars) := do
  let (hour, cs) ← readPair 0 23 cs
  let ':' :: cs := cs | none
  let (minute, cs) ← readPair 0 59 cs
  let ':' :: cs := cs | none
  let (second, cs) ← readPair 0 60 cs
  let (fraction, cs) := readFraction cs
  return (padded 2 hour ++ ':' :: padded 2 minute ++ ':' :: padded 2 second ++ fraction, cs)

def readOffset : Chars → Option (Chars × Chars)
  | [] => some ([], [])
  | c :: cs =>
    if c = 'Z' || c = 'z' then some (['Z'], cs)
    else if c = '+' || c = '-' then do
      let (hour, cs) ← readPair 0 23 cs
      let ':' :: cs := cs | none
      let (minute, cs) ← readPair 0 59 cs
      return (c :: padded 2 hour ++ ':' :: padded 2 minute, cs)
    else some ([], c :: cs)

def startsTime (cs : Chars) : Bool :=
  match readPair 0 23 cs with
  | some (_, ':' :: _) => true
  | _ => false

/-- A date, perhaps with a time of day, or a time of day alone. -/
def readDateTime (cs : Chars) : Option (Value × Chars) :=
  if startsTime cs then
    (readTime cs).map fun (time, rest) => (.dateTime (String.ofList time), rest)
  else do
    let (date, rest) ← readDate cs
    let alone := (Value.dateTime (String.ofList date), rest)
    match rest with
    | c :: more =>
      if (c = 'T' || c = 't' || c = ' ') && startsTime more then
        let (time, rest) ← readTime more
        let (offset, rest) ← readOffset rest
        return (.dateTime (String.ofList (date ++ 'T' :: time ++ offset)), rest)
      else return alone
    | [] => return alone

def startsDate (cs : Chars) : Bool :=
  match readFixed 4 cs with
  | some (_, '-' :: _) => true
  | _ => false

def readScalar (cs : Chars) : Option (Value × Chars) :=
  if startsDate cs || startsTime cs then readDateTime cs else readNumber cs

end ProviderWallet.Toml
