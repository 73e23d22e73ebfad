import ProviderWallet.Http.Host

namespace ProviderWallet.Http

structure Url where
  scheme : String
  rest : String
  hasHost : Bool
  deriving DecidableEq, Repr

namespace Url

/-- The schemes that always have a host, with their ports. -/
def specialPorts : List (String × Option Nat) :=
  [("http", some 80), ("https", some 443), ("ws", some 80), ("wss", some 443), ("ftp", some 21)]

def text (u : Url) : String :=
  u.scheme ++ ":" ++ u.rest

def isWeb (u : Url) : Bool :=
  u.scheme = "http" || u.scheme = "https"

/-- Blanks and control characters around an address do not count. -/
def isOuter (c : Char) : Bool :=
  c.toNat ≤ 0x20

def isSkipped (c : Char) : Bool :=
  c = '\t' || c = '\n' || c = '\r'

def clean (s : String) : List Char :=
  (((s.toList.dropWhile isOuter).reverse.dropWhile isOuter).reverse).filter (!isSkipped ·)

def isSchemeChar (c : Char) : Bool :=
  c.isAlphanum || c = '+' || c = '-' || c = '.'

def splitScheme (cs : List Char) : Option (String × List Char) :=
  match cs with
  | c :: _ =>
    if c.isAlpha then
      match cs.dropWhile isSchemeChar with
      | ':' :: rest =>
        some (String.ofList ((cs.takeWhile isSchemeChar).map Char.toLower), rest)
      | _ => none
    else none
  | [] => none

def percent (b : UInt8) : List Char :=
  ['%', (Text.Hex.digit (b.toNat / 16)).toUpper, (Text.Hex.digit (b.toNat % 16)).toUpper]

/-- A text in which the bytes of some characters, and of all that are not ASCII, are written with
percent signs. -/
def encode (marked : List Char) (cs : List Char) : List Char :=
  cs.flatMap fun c =>
    if c.toNat < 0x20 || 0x7e < c.toNat || marked.contains c then
      (Bytes.ofText (String.ofList [c])).flatMap percent
    else [c]

def queryMarks : List Char := " \"#<>'".toList

def fragmentMarks : List Char := [' ', '"', '<', '>', Char.ofNat 0x60]

def pathMarks : List Char := fragmentMarks ++ "#?^\x7b\x7d".toList

def userMarks : List Char := pathMarks ++ "/:;=@[\\]|".toList

/-- The segments of a path: slashes divide it, and so do backslashes. -/
def segments : List Char → List (List Char)
  | [] => [[]]
  | c :: cs =>
    if c = '/' ∨ c = '\\' then [] :: segments cs
    else
      match segments cs with
      | [] => [[c]]
      | p :: ps => (c :: p) :: ps

def isDot (cs : List Char) : Bool :=
  let cs := cs.map Char.toLower
  cs = ['.'] || cs = "%2e".toList

def isDots (cs : List Char) : Bool :=
  let cs := cs.map Char.toLower
  cs = "..".toList || cs = ".%2e".toList || cs = "%2e.".toList || cs = "%2e%2e".toList

/-- The segments that are left when those for the folder itself and the one around it have been
followed. -/
def resolve (done : List (List Char)) : List (List Char) → List (List Char)
  | [] => done.reverse
  | [last] =>
    if isDot last then (([] : List Char) :: done).reverse
    else if isDots last then (([] : List Char) :: done.tail).reverse
    else (encode pathMarks last :: done).reverse
  | s :: rest =>
    if isDot s then resolve done rest
    else if isDots s then resolve done.tail rest
    else resolve (encode pathMarks s :: done) rest

def pathText (cs : List Char) : List Char :=
  let cs := match cs with
    | c :: rest => if c = '/' ∨ c = '\\' then rest else c :: rest
    | [] => []
  (resolve [] (segments cs)).flatMap fun s => '/' :: s

def cutAt (mark : Char) (cs : List Char) : List Char × Option (List Char) :=
  match cs.dropWhile (· ≠ mark) with
  | [] => (cs, none)
  | _ :: rest => (cs.takeWhile (· ≠ mark), some rest)

def tailText (query fragment : Option (List Char)) : List Char :=
  (query.map fun q => '?' :: encode queryMarks q).getD [] ++
    (fragment.map fun f => '#' :: encode fragmentMarks f).getD []

def splitUser (cs : List Char) : Option (List Char) × List Char :=
  if cs.contains '@' then
    let host := (cs.reverse.takeWhile (· ≠ '@')).reverse
    (some (cs.take (cs.length - host.length - 1)), host)
  else (none, cs)

def userText (user : List Char) : List Char :=
  let (name, password) := cutAt ':' user
  let shown := match password with
    | none | some [] => []
    | some p => ':' :: encode userMarks p
  match encode userMarks name ++ shown with
  | [] => []
  | cs => cs ++ ['@']

/-- The host and what follows it: a colon within brackets belongs to the host. -/
def splitPort (inside : Bool) : List Char → List Char × List Char
  | [] => ([], [])
  | c :: cs =>
    if c = ':' && !inside then ([], c :: cs)
    else
      let (host, rest) := splitPort (c = '[' || (inside && c ≠ ']')) cs
      (c :: host, rest)

/-- What follows a host after a colon: a number that fits in 16 bits, not written if it is the usual
one. -/
def portText (usual : Option Nat) : List Char → Except Fault (List Char)
  | [] | [':'] => .ok []
  | _ :: cs =>
    if !cs.all Decimal.isDigit ∨ 65535 < Decimal.value cs then .error .badPort
    else if usual = some (Decimal.value cs) then .ok []
    else .ok (':' :: Decimal.digits (Decimal.value cs))

def readSpecial (scheme : String) (usual : Option Nat) (cs : List Char) :
    Except Fault Url := do
  let cs := cs.dropWhile fun c => c = '/' ∨ c = '\\'
  let ends (c : Char) : Bool := c = '/' || c = '\\' || c = '?' || c = '#'
  let (user, place) := splitUser (cs.takeWhile (!ends ·))
  let (hostChars, portChars) := splitPort false place
  if hostChars = [] then .error .emptyHost
  else
    let host ← Host.read hostChars
    let shownPort ← portText usual portChars
    let (beforeFragment, fragment) := cutAt '#' (cs.dropWhile (!ends ·))
    let (path, query) := cutAt '?' beforeFragment
    return ⟨scheme, String.ofList ("//".toList ++ (user.map userText).getD [] ++ host ++
      shownPort ++ pathText path ++ tailText query fragment), true⟩

def readOther (scheme : String) (cs : List Char) : Except Fault Url :=
  let (beforeFragment, fragment) := cutAt '#' cs
  let (path, query) := cutAt '?' beforeFragment
  match path with
  | '/' :: '/' :: rest =>
    let (_, place) := splitUser (rest.takeWhile (· ≠ '/'))
    let (hostChars, portChars) := splitPort false place
    if hostChars = [] ∧ portChars ≠ [] then .error .emptyHost
    else
      match Host.literal? hostChars with
      | some (.error f) => .error f
      | _ =>
        if hostChars.any fun c => Host.isForbidden c && c ≠ '%' && c ≠ '[' && c ≠ ']' && c ≠ ':'
        then .error .badName
        else do
          let _ ← portText none portChars
          return ⟨scheme, String.ofList (path ++ tailText query fragment), hostChars ≠ []⟩
  | _ => .ok ⟨scheme, String.ofList (encode [] path ++ tailText query fragment), false⟩

def read (s : String) : Except Fault Url :=
  match splitScheme (clean s) with
  | none => .error .relative
  | some (scheme, rest) =>
    match specialPorts.lookup scheme with
    | some usual => readSpecial scheme usual rest
    | none => readOther scheme rest

end Url

end ProviderWallet.Http
