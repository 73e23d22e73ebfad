import ProviderWallet.Bytes

namespace ProviderWallet.Rlp

inductive Item where
  | bytes (content : Bytes)
  | list (items : List Item)

/-- The mark in front of a content of some size. Sizes from 56 on have digits of their own. -/
def header (mark size : Nat) : Bytes :=
  if size < 56 then [UInt8.ofNat (mark + size)]
  else
    let digits := Bytes.minimal size
    UInt8.ofNat (mark + 55 + digits.length) :: digits

def bytesMark : Nat := 0x80

def listMark : Nat := 0xc0

def encodeBytes : Bytes → Bytes
  | [b] => if b.toNat < bytesMark then [b] else header bytesMark 1 ++ [b]
  | content => header bytesMark content.length ++ content

mutual

def encode : Item → Bytes
  | .bytes content => encodeBytes content
  | .list items =>
    let content := encodeAll items
    header listMark content.length ++ content

def encodeAll : List Item → Bytes
  | [] => []
  | item :: items => encode item ++ encodeAll items

end

def split? (size : Nat) (bytes : Bytes) : Option (Bytes × Bytes) :=
  if size ≤ bytes.length then some (bytes.take size, bytes.drop size) else none

/-- The content after a mark, and what follows. Sizes below 56 have no digits of their own, and
digits do not start with a zero. -/
def readContent? (mark : Nat) (first : UInt8) (rest : Bytes) : Option (Bytes × Bytes) :=
  let size := first.toNat - mark
  if size < 56 then split? size rest
  else do
    let (digits, rest) ← split? (size - 55) rest
    let size := Bytes.toNat digits
    if digits.head? = some 0 ∨ size < 56 then none else split? size rest

mutual

/-- The item in front of bytes. The depth bounds the nesting of calls. -/
def readItem? : (depth : Nat) → Bytes → Option (Item × Bytes)
  | 0, _ => none
  | _, [] => none
  | depth + 1, first :: rest =>
    if first.toNat < bytesMark then some (.bytes [first], rest)
    else if first.toNat < listMark then do
      let (content, rest) ← readContent? bytesMark first rest
      match content with
      | [b] => if b.toNat < bytesMark then none else some (.bytes content, rest)
      | _ => some (.bytes content, rest)
    else do
      let (content, rest) ← readContent? listMark first rest
      return (.list (← readItems? depth content), rest)

def readItems? : (depth : Nat) → Bytes → Option (List Item)
  | _, [] => some []
  | 0, _ => none
  | depth + 1, bytes => do
    let (item, rest) ← readItem? depth bytes
    return item :: (← readItems? depth rest)

end

def decode? (bytes : Bytes) : Option Item :=
  match readItem? (2 * bytes.length + 1) bytes with
  | some (item, []) => some item
  | _ => none

end ProviderWallet.Rlp
