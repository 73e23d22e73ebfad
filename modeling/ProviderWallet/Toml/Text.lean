import ProviderWallet.Decimal
import ProviderWallet.Text.Hex
import ProviderWallet.Toml.Basic

namespace ProviderWallet.Toml

abbrev Chars := List Char

def isBlank (c : Char) : Bool :=
  c = ' ' || c = '\t'

def skipBlanks (cs : Chars) : Chars :=
  cs.dropWhile isBlank

def isVisible (c : Char) : Bool :=
  c = '\t' || (0x20 ≤ c.toNat && c.toNat ≠ 0x7f)

def newline? : Chars → Option Chars
  | '\n' :: cs => some cs
  | '\r' :: '\n' :: cs => some cs
  | _ => none

def skipComment : Chars → Chars
  | '#' :: cs => cs.dropWhile isVisible
  | cs => cs

def lineEnd? (cs : Chars) : Option Chars :=
  match skipComment (skipBlanks cs) with
  | [] => some []
  | cs => newline? cs

def skipLines : (depth : Nat) → Chars → Option Chars
  | 0, cs => some cs
  | depth + 1, cs =>
    match skipBlanks cs with
    | '#' :: rest =>
      match newline? (rest.dropWhile isVisible) with
      | some rest => skipLines depth rest
      | none => none
    | '\n' :: rest => skipLines depth rest
    | '\r' :: '\n' :: rest => skipLines depth rest
    | '\r' :: _ => none
    | rest => some rest

def simpleEscape? (c : Char) : Option Char :=
  match c with
  | 'b' => some '\x08'
  | 't' => some '\t'
  | 'n' => some '\n'
  | 'f' => some '\x0c'
  | 'r' => some '\r'
  | '"' => some '"'
  | '\\' => some '\\'
  | _ => none

def scalar? (digits : Chars) : Option Char := do
  let n ← digits.foldlM (fun n c => (Text.Hex.charValue? c).map (16 * n + ·)) 0
  if n < 0xd800 ∨ (0xdfff < n ∧ n < 0x110000) then some (Char.ofNat n) else none

def readBasic : Chars → Option (Chars × Chars)
  | '"' :: cs => some ([], cs)
  | '\\' :: 'u' :: a :: b :: c :: d :: cs => do
    let (s, rest) ← readBasic cs
    return ((← scalar? [a, b, c, d]) :: s, rest)
  | '\\' :: 'U' :: a :: b :: c :: d :: e :: f :: g :: h :: cs => do
    let (s, rest) ← readBasic cs
    return ((← scalar? [a, b, c, d, e, f, g, h]) :: s, rest)
  | '\\' :: e :: cs => do
    let (s, rest) ← readBasic cs
    return ((← simpleEscape? e) :: s, rest)
  | c :: cs =>
    if c ≠ '\\' && isVisible c then (readBasic cs).map fun (s, rest) => (c :: s, rest) else none
  | [] => none

/-- The end of a string of several lines, after three quotes: two more may belong to it. -/
def closing (quote : Char) : Chars → Chars × Chars
  | a :: b :: cs =>
    if a = quote then
      if b = quote then ([quote, quote], cs) else ([quote], b :: cs)
    else ([], a :: b :: cs)
  | [a] => if a = quote then ([quote], []) else ([], [a])
  | [] => ([], [])

def endsLine (cs : Chars) : Bool :=
  (newline? (skipBlanks cs)).isSome

/-- A string of several lines after its opening quotes. An escaped end of a line and all blanks
after it are left out; `skipping` tells that this is going on. -/
def readBasicLines (skipping : Bool) : Chars → Option (Chars × Chars)
  | '"' :: '"' :: '"' :: cs => some (closing '"' cs)
  | '\r' :: '\n' :: cs => do
    let (s, rest) ← readBasicLines skipping cs
    return (if skipping then s else '\n' :: s, rest)
  | '\\' :: cs =>
    if endsLine cs then readBasicLines true cs
    else
      match cs with
      | 'u' :: a :: b :: c :: d :: cs => do
        let (s, rest) ← readBasicLines false cs
        return ((← scalar? [a, b, c, d]) :: s, rest)
      | 'U' :: a :: b :: c :: d :: e :: f :: g :: h :: cs => do
        let (s, rest) ← readBasicLines false cs
        return ((← scalar? [a, b, c, d, e, f, g, h]) :: s, rest)
      | e :: cs => do
        let (s, rest) ← readBasicLines false cs
        return ((← simpleEscape? e) :: s, rest)
      | [] => none
  | c :: cs =>
    if c = '\n' || (skipping && isBlank c) then do
      let (s, rest) ← readBasicLines skipping cs
      return (if skipping then s else c :: s, rest)
    else if isVisible c then do
      let (s, rest) ← readBasicLines false cs
      return (c :: s, rest)
    else none
  | [] => none

def readLiteral : Chars → Option (Chars × Chars)
  | '\'' :: cs => some ([], cs)
  | c :: cs =>
    if isVisible c then (readLiteral cs).map fun (s, rest) => (c :: s, rest) else none
  | [] => none

def readLiteralLines : Chars → Option (Chars × Chars)
  | '\'' :: '\'' :: '\'' :: cs => some (closing '\'' cs)
  | '\r' :: '\n' :: cs => (readLiteralLines cs).map fun (s, rest) => ('\n' :: s, rest)
  | c :: cs =>
    if c = '\n' || isVisible c then
      (readLiteralLines cs).map fun (s, rest) => (c :: s, rest)
    else none
  | [] => none

def withoutNewline (cs : Chars) : Chars :=
  (newline? cs).getD cs

def readString : Chars → Option (String × Chars)
  | '"' :: '"' :: '"' :: cs => do
    let (s, rest) ← readBasicLines false (withoutNewline cs)
    return (String.ofList s, rest)
  | '\'' :: '\'' :: '\'' :: cs => do
    let (s, rest) ← readLiteralLines (withoutNewline cs)
    return (String.ofList s, rest)
  | '"' :: cs => (readBasic cs).map fun (s, rest) => (String.ofList s, rest)
  | '\'' :: cs => (readLiteral cs).map fun (s, rest) => (String.ofList s, rest)
  | _ => none

def isKeyChar (c : Char) : Bool :=
  c.isAlphanum || c = '-' || c = '_'

def readKeyPart : Chars → Option (String × Chars)
  | '"' :: cs => (readBasic cs).map fun (s, rest) => (String.ofList s, rest)
  | '\'' :: cs => (readLiteral cs).map fun (s, rest) => (String.ofList s, rest)
  | cs =>
    match cs.takeWhile isKeyChar with
    | [] => none
    | s => some (String.ofList s, cs.dropWhile isKeyChar)

def readParts : (depth : Nat) → Chars → Option (List String × Chars)
  | 0, _ => none
  | depth + 1, cs => do
    let (part, rest) ← readKeyPart (skipBlanks cs)
    match skipBlanks rest with
    | '.' :: rest =>
      let (parts, rest) ← readParts depth rest
      return (part :: parts, rest)
    | rest => return ([part], rest)

def readKey (cs : Chars) : Option (List String × Chars) :=
  readParts limit cs

end ProviderWallet.Toml
