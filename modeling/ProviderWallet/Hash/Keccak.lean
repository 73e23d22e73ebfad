import ProviderWallet.Bytes

namespace ProviderWallet.Hash.Keccak

def constants : List UInt64 :=
  [0x0000000000000001, 0x0000000000008082, 0x800000000000808a, 0x8000000080008000,
   0x000000000000808b, 0x0000000080000001, 0x8000000080008081, 0x8000000000008009,
   0x000000000000008a, 0x0000000000000088, 0x0000000080008009, 0x000000008000000a,
   0x000000008000808b, 0x800000000000008b, 0x8000000000008089, 0x8000000000008003,
   0x8000000000008002, 0x8000000000000080, 0x000000000000800a, 0x800000008000000a,
   0x8000000080008081, 0x8000000000008080, 0x0000000080000001, 0x8000000080008008]

def rotations : List UInt64 :=
  [0, 1, 62, 28, 27, 36, 44, 6, 55, 20, 3, 10, 43, 25, 39, 41, 45, 15, 21, 8, 18, 2, 61, 56, 14]

def rotateLeft (x n : UInt64) : UInt64 :=
  if n = 0 then x else (x <<< n) ||| (x >>> (64 - n))

/-- One round on the twenty-five lanes; the lane of column `x` and row `y` is at `x + 5 * y`. -/
def round (lanes : Array UInt64) (constant : UInt64) : Array UInt64 :=
  let lane (a : Array UInt64) (x y : Nat) : UInt64 := a.getD (x % 5 + 5 * (y % 5)) 0
  let column := ((List.range 5).map fun x =>
    lane lanes x 0 ^^^ lane lanes x 1 ^^^ lane lanes x 2 ^^^ lane lanes x 3 ^^^
      lane lanes x 4).toArray
  let mixed := ((List.range 5).map fun x =>
    column.getD ((x + 4) % 5) 0 ^^^ rotateLeft (column.getD ((x + 1) % 5) 0) 1).toArray
  let turned := (rotations.zipIdx.map fun (r, i) =>
    rotateLeft (lanes.getD i 0 ^^^ mixed.getD (i % 5) 0) r).toArray
  -- The lane of column x and row y comes from column x + 3 y and row x.
  let moved := ((List.range 25).map fun i =>
    let x := i % 5
    let y := i / 5
    lane turned (x + 3 * y) x).toArray
  ((List.range 25).map fun i =>
    let x := i % 5
    let y := i / 5
    let kept := lane moved x y ^^^ (~~~(lane moved (x + 1) y) &&& lane moved (x + 2) y)
    if i = 0 then kept ^^^ constant else kept).toArray

def permute (lanes : Array UInt64) : Array UInt64 :=
  constants.foldl round lanes

def rate : Nat := 136

/-- The message, a one bit, zeros and a final one bit, a multiple of the rate. -/
def pad (message : Bytes) : Bytes :=
  let missing := rate - message.length % rate
  if missing = 1 then message ++ [0x81]
  else message ++ 0x01 :: List.replicate (missing - 2) 0 ++ [0x80]

def absorbBlock (lanes : Array UInt64) (block : Bytes) : Array UInt64 :=
  permute (((List.range 25).map fun i =>
    lanes.getD i 0 ^^^ UInt64.ofNat (Bytes.ofLittleEndian ((block.drop (8 * i)).take 8))).toArray)

def absorb (lanes : Array UInt64) (blocks : Bytes) : Array UInt64 :=
  if _h : blocks.length < rate then lanes
  else absorb (absorbBlock lanes (blocks.take rate)) (blocks.drop rate)
termination_by blocks.length
decreasing_by simp only [List.length_drop, rate] at *; omega

def hash (message : Bytes) : Bytes :=
  let lanes := absorb (Array.replicate 25 0) (pad message)
  (List.range 4).flatMap fun i => Bytes.littleEndian 8 (lanes.getD i 0).toNat

end ProviderWallet.Hash.Keccak
