import ProviderWallet.Bytes
import ProviderWallet.Decimal
import ProviderWallet.Text.Hex

namespace ProviderWallet.Http

inductive Url.Fault where
  | relative
  | emptyHost
  | badName
  | badPort
  | badIpv4
  | badIpv6
  deriving DecidableEq, Repr

def Url.Fault.message : Fault → String
  | relative => "relative URL without a base"
  | emptyHost => "empty host"
  | badName => "invalid international domain name"
  | badPort => "invalid port number"
  | badIpv4 => "invalid IPv4 address"
  | badIpv6 => "invalid IPv6 address"

namespace Host

open Url (Fault)

def pieces (mark : Char) : List Char → List (List Char)
  | [] => [[]]
  | c :: cs =>
    if c = mark then [] :: pieces mark cs
    else
      match pieces mark cs with
      | [] => [[c]]
      | p :: ps => (c :: p) :: ps

def percentDecode : Bytes → Bytes
  | 37 :: a :: b :: rest =>
    match Text.Hex.digitValue? a, Text.Hex.digitValue? b with
    | some x, some y => UInt8.ofNat (16 * x + y) :: percentDecode rest
    | _, _ => 37 :: percentDecode (a :: b :: rest)
  | b :: rest => b :: percentDecode rest
  | [] => []

def isForbidden (c : Char) : Bool :=
  c.toNat ≤ 0x20 || c.toNat = 0x7f || "#/:<>?@[\\]^|%".toList.contains c

/-- A number in the notation of the old address forms: octal, decimal or hexadecimal. -/
def ipv4Number? (cs : List Char) : Option Nat :=
  let digits (base : Nat) (cs : List Char) : Option Nat :=
    cs.foldlM (fun n c => do
      let v ← Text.Hex.charValue? c
      if v < base then some (n * base + v) else none) 0
  match cs with
  | [] => none
  | ['0'] => some 0
  | '0' :: x :: cs => if x = 'x' ∨ x = 'X' then digits 16 cs else digits 8 (x :: cs)
  | cs => digits 10 cs

def labels (name : List Char) : List (List Char) :=
  let ps := pieces '.' name
  if ps.length > 1 ∧ ps.getLast? = some [] then ps.dropLast else ps

def endsInNumber (name : List Char) : Bool :=
  match (labels name).getLast? with
  | none | some [] => false
  | some last =>
    last.all Decimal.isDigit ||
      (match last with
        | '0' :: x :: cs => (x = 'x' ∨ x = 'X') && (ipv4Number? ('0' :: 'x' :: cs)).isSome
        | _ => false)

def ipv4Text (n : Nat) : List Char :=
  (String.intercalate "." ((Bytes.ofNat 4 n).map fun b => Decimal.text b.toNat)).toList

/-- A number of four bytes. All of the numbers but the last stand for a byte. -/
def ipv4? (name : List Char) : Option Nat := do
  let numbers ← (labels name).mapM ipv4Number?
  let last ← numbers.getLast?
  let front := numbers.dropLast
  if 3 < front.length ∨ front.any (255 < ·) ∨ Nat.pow 256 (4 - front.length) ≤ last then none
  else return front.foldl (fun n b => n * 256 + b) 0 * Nat.pow 256 (4 - front.length) + last

def ipv6Group? (cs : List Char) : Option Nat :=
  if cs = [] ∨ 4 < cs.length then none
  else cs.foldlM (fun n c => (Text.Hex.charValue? c).map (16 * n + ·)) 0

def ipv6Tail? (cs : List Char) : Option (List Nat) := do
  let numbers ← (pieces '.' cs).mapM fun p =>
    if p.length ≤ 3 ∧ (p.length = 1 ∨ p.head? ≠ some '0') then Decimal.read? p else none
  match numbers with
  | [a, b, c, d] =>
    if a < 256 ∧ b < 256 ∧ c < 256 ∧ d < 256 then some [a * 256 + b, c * 256 + d] else none
  | _ => none

def ipv6Groups? (cs : List Char) : Option (List Nat) :=
  if cs = [] then some []
  else
    let ps := pieces ':' cs
    match ps.getLast? with
    | none => some []
    | some last =>
      if last.contains '.' then do
        return (← ps.dropLast.mapM ipv6Group?) ++ (← ipv6Tail? last)
      else ps.mapM ipv6Group?

def splitPair : List Char → Option (List Char × List Char)
  | ':' :: ':' :: cs => some ([], cs)
  | c :: cs => (splitPair cs).map fun (a, b) => (c :: a, b)
  | [] => none

/-- Eight groups; a pair of colons stands for groups of zeros, at least one. -/
def ipv6? (cs : List Char) : Option (List Nat) := do
  match splitPair cs with
  | none =>
    let groups ← ipv6Groups? cs
    if groups.length = 8 then some groups else none
  | some (front, back) =>
    if front.contains '.' then none
    else
      let a ← ipv6Groups? front
      let b ← ipv6Groups? back
      if a.length + b.length ≤ 7 then
        some (a ++ List.replicate (8 - a.length - b.length) 0 ++ b)
      else none

def zeros (groups : List Nat) : Nat :=
  (groups.takeWhile (· = 0)).length

def longestZeros (groups : List Nat) : Option (Nat × Nat) :=
  (List.range groups.length).foldl (fun best i =>
    let n := zeros (groups.drop i)
    match best with
    | none => if 2 ≤ n then some (i, n) else none
    | some (_, m) => if m < n then some (i, n) else best) none

def groupsText (groups : List Nat) : String :=
  String.intercalate ":" (groups.map fun n =>
    String.ofList (match (Text.Hex.digits (Bytes.ofNat 2 n)).dropWhile (· = '0') with
      | [] => ['0']
      | cs => cs))

/-- Eight groups with the longest run of zeros left out. -/
def ipv6Text (groups : List Nat) : List Char :=
  let inner := match longestZeros groups with
    | none => groupsText groups
    | some (i, n) => groupsText (groups.take i) ++ "::" ++ groupsText (groups.drop (i + n))
  '[' :: inner.toList ++ [']']

def literal? : List Char → Option (Except Fault (List Char))
  | '[' :: cs =>
    if cs.getLast? = some ']' then
      match ipv6? cs.dropLast with
      | some groups => some (.ok (ipv6Text groups))
      | none => some (.error .badIpv6)
    else some (.error .badIpv6)
  | _ => none

/-- The host of a web address in its standard form. Names are written in lower case. -/
def read (cs : List Char) : Except Fault (List Char) :=
  match literal? cs with
  | some result => result
  | none =>
    match Bytes.toText? (percentDecode (Bytes.ofText (String.ofList cs))) with
    | none => .error .badName
    | some name =>
      let name := name.toList.map Char.toLower
      if name.any isForbidden then .error .badName
      else if name = [] then .error .emptyHost
      else if endsInNumber name then
        match ipv4? name with
        | some n => .ok (ipv4Text n)
        | none => .error .badIpv4
      else .ok name

end Host

end ProviderWallet.Http
