import ProviderWallet.Json.Basic
import ProviderWallet.Text.Hex

namespace ProviderWallet.Json

structure Numeral where
  negative : Bool
  whole : List Char
  places : List Char
  /-- The sign of the exponent and its digits. -/
  exponent : Option (Bool × List Char)
  deriving DecidableEq, Repr

/-- A value taken apart by the grammar alone. What has no value, a number out of range or half of a
surrogate pair, is refused only where the part is used. -/
inductive Part where
  | null
  | bool (b : Bool)
  | number (n : Numeral)
  | string (cs : Option (List Char))
  | array (items : List Part)
  | object (fields : List (Option (List Char) × Part))

def isSpace (c : Char) : Bool :=
  c = ' ' || c = '\n' || c = '\t' || c = '\r'

def skipSpace (cs : List Char) : List Char :=
  cs.dropWhile isSpace

def hexUnit? (a b c d : Char) : Option Nat := do
  let a ← Text.Hex.charValue? a
  let b ← Text.Hex.charValue? b
  let c ← Text.Hex.charValue? c
  let d ← Text.Hex.charValue? d
  return ((a * 16 + b) * 16 + c) * 16 + d

def simpleEscape? (c : Char) : Option Char :=
  match c with
  | '"' => some '"'
  | '\\' => some '\\'
  | '/' => some '/'
  | 'b' => some '\x08'
  | 'f' => some '\x0c'
  | 'n' => some '\n'
  | 'r' => some '\r'
  | 't' => some '\t'
  | _ => none

inductive Piece where
  | char (c : Char)
  | high (unit : Nat)
  | low (unit : Nat)

def unitPiece (n : Nat) : Piece :=
  if 0xd800 ≤ n ∧ n < 0xdc00 then .high n
  else if 0xdc00 ≤ n ∧ n < 0xe000 then .low n
  else .char (Char.ofNat n)

def joinPieces : List Piece → Option (List Char)
  | [] => some []
  | .char c :: ps => (joinPieces ps).map (c :: ·)
  | .high h :: .low l :: ps =>
    (joinPieces ps).map (Char.ofNat (0x10000 + (h - 0xd800) * 0x400 + (l - 0xdc00)) :: ·)
  | _ => none

def readPieces : List Char → Option (List Piece × List Char)
  | '"' :: cs => some ([], cs)
  | '\\' :: 'u' :: a :: b :: c :: d :: cs => do
    let n ← hexUnit? a b c d
    let (ps, rest) ← readPieces cs
    return (unitPiece n :: ps, rest)
  | '\\' :: e :: cs => do
    let c ← simpleEscape? e
    let (ps, rest) ← readPieces cs
    return (.char c :: ps, rest)
  | c :: cs =>
    if c.toNat < 0x20 || c = '\\' then none
    else do
      let (ps, rest) ← readPieces cs
      return (.char c :: ps, rest)
  | [] => none

def readString (cs : List Char) : Option (Option (List Char) × List Char) := do
  let (ps, rest) ← readPieces cs
  return (joinPieces ps, rest)

def takeDigits (cs : List Char) : List Char × List Char :=
  (cs.takeWhile Decimal.isDigit, cs.dropWhile Decimal.isDigit)

def readWhole : List Char → Option (List Char × List Char)
  | '0' :: cs =>
    match cs with
    | c :: _ => if Decimal.isDigit c then none else some (['0'], cs)
    | [] => some (['0'], [])
  | cs =>
    match takeDigits cs with
    | ([], _) => none
    | (ds, rest) => some (ds, rest)

def readPlaces : List Char → Option (List Char × List Char)
  | '.' :: cs =>
    match takeDigits cs with
    | ([], _) => none
    | (ds, rest) => some (ds, rest)
  | cs => some ([], cs)

def readExponent : List Char → Option (Option (Bool × List Char) × List Char)
  | c :: cs =>
    if c = 'e' || c = 'E' then
      let (negative, cs) := match cs with
        | '-' :: cs => (true, cs)
        | '+' :: cs => (false, cs)
        | cs => (false, cs)
      match takeDigits cs with
      | ([], _) => none
      | (ds, rest) => some (some (negative, ds), rest)
    else some (none, c :: cs)
  | [] => some (none, [])

def readNumeral (cs : List Char) : Option (Numeral × List Char) := do
  let (negative, cs) := match cs with
    | '-' :: cs => (true, cs)
    | cs => (false, cs)
  let (whole, cs) ← readWhole cs
  let (places, cs) ← readPlaces cs
  let (exponent, cs) ← readExponent cs
  return (⟨negative, whole, places, exponent⟩, cs)

mutual

/-- A value in front of a text. The depth bounds the nesting of calls; a text is never nested
deeper than it is long. -/
def readPart : (depth : Nat) → List Char → Option (Part × List Char)
  | 0, _ => none
  | depth + 1, cs =>
    match skipSpace cs with
    | 'n' :: 'u' :: 'l' :: 'l' :: cs => some (.null, cs)
    | 't' :: 'r' :: 'u' :: 'e' :: cs => some (.bool true, cs)
    | 'f' :: 'a' :: 'l' :: 's' :: 'e' :: cs => some (.bool false, cs)
    | '"' :: cs => do
      let (s, cs) ← readString cs
      return (.string s, cs)
    | '[' :: cs =>
      match skipSpace cs with
      | ']' :: cs => some (.array [], cs)
      | cs => do
        let (items, cs) ← readItems depth cs
        return (.array items, cs)
    | '\x7b' :: cs =>
      match skipSpace cs with
      | '\x7d' :: cs => some (.object [], cs)
      | cs => do
        let (fields, cs) ← readFields depth cs
        return (.object fields, cs)
    | cs => do
      let (n, cs) ← readNumeral cs
      return (.number n, cs)

def readItems : (depth : Nat) → List Char → Option (List Part × List Char)
  | 0, _ => none
  | depth + 1, cs => do
    let (item, cs) ← readPart depth cs
    match skipSpace cs with
    | ']' :: cs => return ([item], cs)
    | ',' :: cs =>
      let (items, cs) ← readItems depth cs
      return (item :: items, cs)
    | _ => none

def readFields : (depth : Nat) → List Char →
    Option (List (Option (List Char) × Part) × List Char)
  | 0, _ => none
  | depth + 1, cs => do
    match skipSpace cs with
    | '"' :: cs =>
      let (name, cs) ← readString cs
      match skipSpace cs with
      | ':' :: cs =>
        let (value, cs) ← readPart depth cs
        match skipSpace cs with
        | '\x7d' :: cs => return ([(name, value)], cs)
        | ',' :: cs =>
          let (fields, cs) ← readFields depth cs
          return ((name, value) :: fields, cs)
        | _ => none
      | _ => none
    | _ => none

end

def readParts (cs : List Char) : Option Part := do
  let (part, rest) ← readPart (2 * cs.length + 2) cs
  if skipSpace rest = [] then some part else none

def maxDepth : Nat := 127

def maxWord : Nat := Nat.pow 2 64 - 1

/-- Appends digits to a significand as long as it fits into 64 bits. The digits that are left come
second. -/
def significand : (sofar : Nat) → List Char → Nat × List Char
  | n, [] => (n, [])
  | n, c :: cs =>
    let next := n * 10 + Decimal.digitValue c
    if maxWord < next then (n, c :: cs) else significand next cs

def nearestPower (places : Nat) : Option Binary64 :=
  Binary64.ofRatio (Nat.pow 10 places) 1

def shrink : (times : Nat) → Binary64 → Option Binary64
  | 0, x => some x
  | times + 1, x =>
    if x.mantissa = 0 then some x else ((nearestPower 308).bind x.div).bind (shrink times)

/-- Scales a significand by a power of ten, in steps of at most 308 places, each of them rounded.
`none` if it grows too large. -/
def scale (x : Binary64) (exponent : Int) : Option Binary64 :=
  if x.mantissa = 0 then some x
  else if 308 < exponent then none
  else if 0 ≤ exponent then (nearestPower exponent.toNat).bind x.mul
  else
    let places := (-exponent).toNat
    let times := (places - 1) / 308
    (shrink times x).bind fun y => (nearestPower (places - 308 * times)).bind y.div

/-- The floating point number that a numeral stands for: a significand of at most 64 bits, scaled
by as many places as were not taken into it. -/
def Numeral.double (n : Numeral) : Option Number :=
  let (m, dropped) := significand 0 n.whole
  let (m, taken) :=
    let (m', left) := significand m n.places
    (m', n.places.length - left.length)
  let places : Int := (dropped.length : Int) - taken
  let start := (Binary64.ofRatio m 1).getD Binary64.zero
  let exponent := match n.exponent with
    | none => some places
    | some (negative, ds) =>
      let e := Decimal.value ds
      if Nat.pow 2 31 ≤ e then
        if m ≠ 0 && !negative then none else some (-1000000)
      else some (if negative then places - e else places + e)
  match exponent with
  | none => none
  | some e => (scale start e).map (.double n.negative)

/-- The value of a numeral: an integer if it is written as one and fits into 64 bits, and is not a
zero with a sign. -/
def Numeral.value (n : Numeral) : Option Number :=
  if n.places = [] ∧ n.exponent = none then
    let m := Decimal.value n.whole
    if n.negative then
      if 0 < m ∧ m ≤ Nat.pow 2 63 then some (.whole (-(m : Int))) else n.double
    else if m ≤ maxWord then some (.whole m)
    else n.double
  else n.double

mutual

def Part.value (depth : Nat) : Part → Option Json
  | .null => some .null
  | .bool b => some (.bool b)
  | .number n => n.value.map .number
  | .string cs => cs.map fun cs => .string (String.ofList cs)
  | .array items =>
    if depth = 0 then none else (itemValues (depth - 1) items).map .array
  | .object fields =>
    if depth = 0 then none else (fieldValues (depth - 1) fields).map sorted

def itemValues (depth : Nat) : List Part → Option (List Json)
  | [] => some []
  | item :: items =>
    match item.value depth, itemValues depth items with
    | some v, some vs => some (v :: vs)
    | _, _ => none

def fieldValues (depth : Nat) :
    List (Option (List Char) × Part) → Option (List (String × Json))
  | [] => some []
  | (name, part) :: fields =>
    match name, part.value depth, fieldValues depth fields with
    | some cs, some v, some vs => some ((String.ofList cs, v) :: vs)
    | _, _, _ => none

end

def read? (s : String) : Option Json := do
  (← readParts s.toList).value maxDepth

end ProviderWallet.Json
