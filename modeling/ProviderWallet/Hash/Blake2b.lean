import ProviderWallet.Bytes

namespace ProviderWallet.Hash.Blake2b

/-- The initial chaining words: the fractional parts of the square roots of the first eight
primes. -/
def initial : List UInt64 :=
  [0x6a09e667f3bcc908, 0xbb67ae8584caa73b, 0x3c6ef372fe94f82b, 0xa54ff53a5f1d36f1,
   0x510e527fade682d1, 0x9b05688c2b3e6c1f, 0x1f83d9abfb41bd6b, 0x5be0cd19137e2179]

def schedule : List (List Nat) :=
  [[0, 1, 2, 3, 4, 5, 6, 7, 8, 9, 10, 11, 12, 13, 14, 15],
   [14, 10, 4, 8, 9, 15, 13, 6, 1, 12, 0, 2, 11, 7, 5, 3],
   [11, 8, 12, 0, 5, 2, 15, 13, 10, 14, 3, 6, 7, 1, 9, 4],
   [7, 9, 3, 1, 13, 12, 11, 14, 2, 6, 5, 10, 4, 0, 15, 8],
   [9, 0, 5, 7, 2, 4, 10, 15, 14, 1, 11, 12, 6, 8, 3, 13],
   [2, 12, 6, 10, 0, 11, 8, 3, 4, 13, 7, 5, 15, 14, 1, 9],
   [12, 5, 1, 15, 14, 13, 4, 10, 0, 7, 6, 3, 9, 2, 8, 11],
   [13, 11, 7, 14, 12, 1, 3, 9, 5, 0, 15, 4, 8, 6, 2, 10],
   [6, 15, 14, 9, 11, 3, 0, 8, 12, 2, 13, 7, 1, 4, 10, 5],
   [10, 2, 8, 4, 7, 6, 1, 5, 15, 11, 9, 14, 3, 12, 13, 0],
   [0, 1, 2, 3, 4, 5, 6, 7, 8, 9, 10, 11, 12, 13, 14, 15],
   [14, 10, 4, 8, 9, 15, 13, 6, 1, 12, 0, 2, 11, 7, 5, 3]]

/-- The four words that each of a round's eight mixing steps works on: columns, then
diagonals. -/
def lanes : List (Nat × Nat × Nat × Nat) :=
  [(0, 4, 8, 12), (1, 5, 9, 13), (2, 6, 10, 14), (3, 7, 11, 15),
   (0, 5, 10, 15), (1, 6, 11, 12), (2, 7, 8, 13), (3, 4, 9, 14)]

def rotateRight (x n : UInt64) : UInt64 :=
  (x >>> n) ||| (x <<< (64 - n))

def mix (v : Array UInt64) (lane : Nat × Nat × Nat × Nat) (x y : UInt64) : Array UInt64 :=
  let (ia, ib, ic, id) := lane
  let a := v.getD ia 0 + v.getD ib 0 + x
  let d := rotateRight (v.getD id 0 ^^^ a) 32
  let c := v.getD ic 0 + d
  let b := rotateRight (v.getD ib 0 ^^^ c) 24
  let a := a + b + y
  let d := rotateRight (d ^^^ a) 16
  let c := c + d
  let b := rotateRight (b ^^^ c) 63
  (((v.setIfInBounds ia a).setIfInBounds ib b).setIfInBounds ic c).setIfInBounds id d

def round (message : Array UInt64) (v : Array UInt64) (order : List Nat) : Array UInt64 :=
  let words := (order.map fun i => message.getD i 0).toArray
  (lanes.zipIdx).foldl
    (fun v (lane, i) => mix v lane (words.getD (2 * i) 0) (words.getD (2 * i + 1) 0)) v

def wordsOf (block : Bytes) : Array UInt64 :=
  ((List.range 16).map fun i =>
    UInt64.ofNat (Bytes.ofLittleEndian ((block.drop (8 * i)).take 8))).toArray

/-- Folds one block into the chaining words; `count` is the number of message bytes so far. -/
def compress (h : List UInt64) (block : Bytes) (count : Nat) (last : Bool) : List UInt64 :=
  let low := UInt64.ofNat count
  let high := UInt64.ofNat (count / Nat.pow 2 64)
  let tweak : List UInt64 := [0, 0, 0, 0, low, high, if last then 0xffffffffffffffff else 0, 0]
  let v := (h ++ List.zipWith (· ^^^ ·) initial tweak).toArray
  let v := schedule.foldl (round (wordsOf block)) v
  h.zipIdx.map fun (x, i) => x ^^^ v.getD i 0 ^^^ v.getD (i + 8) 0

/-- Folds the blocks of a message; the last block is padded with zeros and marked. -/
def absorb (h : List UInt64) (message : Bytes) (done : Nat) : List UInt64 :=
  if _h : message.length ≤ 128 then
    compress h (message ++ List.replicate (128 - message.length) 0) (done + message.length) true
  else
    absorb (compress h (message.take 128) (done + 128) false) (message.drop 128) (done + 128)
termination_by message.length
decreasing_by simp only [List.length_drop]; omega

def hash (size : Nat) (message : Bytes) : Bytes :=
  let h := initial.zipIdx.map fun (x, i) =>
    if i = 0 then x ^^^ 0x01010000 ^^^ UInt64.ofNat size else x
  ((absorb h message 0).flatMap fun x => Bytes.littleEndian 8 x.toNat).take size

end ProviderWallet.Hash.Blake2b
