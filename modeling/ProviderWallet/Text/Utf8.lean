import ProviderWallet.Bytes

namespace ProviderWallet.Text.Utf8

/-- An unfinished character: its bits so far, how many bytes are missing, and the least and the
greatest byte that may come next. -/
structure Pending where
  bits : Nat
  missing : Nat
  low : UInt8
  high : UInt8

inductive Start where
  | whole (c : Char)
  | part (p : Pending)
  | wrong

def start (b : UInt8) : Start :=
  let n := b.toNat
  if b < 0x80 then .whole (Char.ofNat n)
  else if b < 0xc2 then .wrong
  else if b < 0xe0 then .part ⟨n - 0xc0, 1, 0x80, 0xbf⟩
  else if b < 0xf0 then
    .part ⟨n - 0xe0, 2, if b = 0xe0 then 0xa0 else 0x80, if b = 0xed then 0x9f else 0xbf⟩
  else if b < 0xf5 then
    .part ⟨n - 0xf0, 3, if b = 0xf0 then 0x90 else 0x80, if b = 0xf4 then 0x8f else 0xbf⟩
  else .wrong

def Pending.accepts (p : Pending) (b : UInt8) : Bool :=
  p.low ≤ b && b ≤ p.high

def Pending.push (p : Pending) (b : UInt8) : Nat :=
  p.bits * 64 + (b.toNat - 0x80)

/-- Stands for each invalid part: a byte that starts nothing, or the longest piece of a character
that breaks off. -/
def replacement : Char := '\uFFFD'

def enter (b : UInt8) : List Char × Option Pending :=
  match start b with
  | .whole c => ([c], none)
  | .part p => ([], some p)
  | .wrong => ([replacement], none)

def step : Option Pending → UInt8 → List Char × Option Pending
  | none, b => enter b
  | some p, b =>
    if p.accepts b then
      if p.missing = 1 then ([Char.ofNat (p.push b)], none)
      else ([], some ⟨p.push b, p.missing - 1, 0x80, 0xbf⟩)
    else
      let (cs, next) := enter b
      (replacement :: cs, next)

def decodeFrom : Option Pending → Bytes → List Char
  | none, [] => []
  | some _, [] => [replacement]
  | p, b :: rest =>
    let (cs, next) := step p b
    cs ++ decodeFrom next rest

def decodeLossy (bytes : Bytes) : String :=
  String.ofList (decodeFrom none bytes)

/-- Why bytes are no text: a part of some bytes at an index is invalid, or the text ends inside
the character that starts at an index. -/
inductive Fault where
  | invalid (size index : Nat)
  | incomplete (index : Nat)
  deriving DecidableEq, Repr

def Fault.message : Fault → String
  | .invalid size index => s!"invalid utf-8 sequence of {size} bytes from index {index}"
  | .incomplete index => s!"incomplete utf-8 byte sequence from index {index}"

def faultFrom : Option Pending → (used index : Nat) → Bytes → Option Fault
  | none, _, _, [] => none
  | some _, used, index, [] => some (.incomplete (index - used))
  | none, _, index, b :: rest =>
    match start b with
    | .whole _ => faultFrom none 0 (index + 1) rest
    | .part p => faultFrom (some p) 1 (index + 1) rest
    | .wrong => some (.invalid 1 index)
  | some p, used, index, b :: rest =>
    if p.accepts b then
      if p.missing = 1 then faultFrom none 0 (index + 1) rest
      else faultFrom (some ⟨p.push b, p.missing - 1, 0x80, 0xbf⟩) (used + 1) (index + 1) rest
    else some (.invalid used (index - used))

def fault? (bytes : Bytes) : Option Fault :=
  faultFrom none 0 0 bytes

end ProviderWallet.Text.Utf8
