import ProviderWallet.Hash.Blake2b

namespace ProviderWallet.Hash.Argon2id

structure Row where
  (w0 w1 w2 w3 w4 w5 w6 w7 w8 w9 w10 w11 w12 w13 w14 w15 : UInt64)

structure Block where
  (r0 r1 r2 r3 r4 r5 r6 r7 : Row)

namespace Row

def zero : Row := ⟨0, 0, 0, 0, 0, 0, 0, 0, 0, 0, 0, 0, 0, 0, 0, 0⟩

def xor (a b : Row) : Row :=
  ⟨a.w0 ^^^ b.w0, a.w1 ^^^ b.w1, a.w2 ^^^ b.w2, a.w3 ^^^ b.w3,
   a.w4 ^^^ b.w4, a.w5 ^^^ b.w5, a.w6 ^^^ b.w6, a.w7 ^^^ b.w7,
   a.w8 ^^^ b.w8, a.w9 ^^^ b.w9, a.w10 ^^^ b.w10, a.w11 ^^^ b.w11,
   a.w12 ^^^ b.w12, a.w13 ^^^ b.w13, a.w14 ^^^ b.w14, a.w15 ^^^ b.w15⟩

/-- Addition that also multiplies the low halves. -/
@[inline] def blend (x y : UInt64) : UInt64 :=
  x + y + 2 * (x &&& 0xffffffff) * (y &&& 0xffffffff)

@[inline] def rotateRight (x n : UInt64) : UInt64 :=
  (x >>> n) ||| (x <<< (64 - n))

@[inline] def quarter {α : Type} (a b c d : UInt64)
    (next : UInt64 → UInt64 → UInt64 → UInt64 → α) : α :=
  let a := blend a b
  let d := rotateRight (d ^^^ a) 32
  let c := blend c d
  let b := rotateRight (b ^^^ c) 24
  let a := blend a b
  let d := rotateRight (d ^^^ a) 16
  let c := blend c d
  let b := rotateRight (b ^^^ c) 63
  next a b c d

def mix (r : Row) : Row :=
  quarter r.w0 r.w4 r.w8 r.w12 fun a0 b0 c0 d0 =>
  quarter r.w1 r.w5 r.w9 r.w13 fun a1 b1 c1 d1 =>
  quarter r.w2 r.w6 r.w10 r.w14 fun a2 b2 c2 d2 =>
  quarter r.w3 r.w7 r.w11 r.w15 fun a3 b3 c3 d3 =>
  quarter a0 b1 c2 d3 fun a0 b1 c2 d3 =>
  quarter a1 b2 c3 d0 fun a1 b2 c3 d0 =>
  quarter a2 b3 c0 d1 fun a2 b3 c0 d1 =>
  quarter a3 b0 c1 d2 fun a3 b0 c1 d2 =>
  ⟨a0, a1, a2, a3, b0, b1, b2, b3, c0, c1, c2, c3, d0, d1, d2, d3⟩

end Row

namespace Block

def zero : Block :=
  ⟨Row.zero, Row.zero, Row.zero, Row.zero, Row.zero, Row.zero, Row.zero, Row.zero⟩

def xor (a b : Block) : Block :=
  ⟨a.r0.xor b.r0, a.r1.xor b.r1, a.r2.xor b.r2, a.r3.xor b.r3,
   a.r4.xor b.r4, a.r5.xor b.r5, a.r6.xor b.r6, a.r7.xor b.r7⟩

def transpose (b : Block) : Block :=
  ⟨⟨b.r0.w0, b.r0.w1, b.r1.w0, b.r1.w1, b.r2.w0, b.r2.w1, b.r3.w0, b.r3.w1,
    b.r4.w0, b.r4.w1, b.r5.w0, b.r5.w1, b.r6.w0, b.r6.w1, b.r7.w0, b.r7.w1⟩,
   ⟨b.r0.w2, b.r0.w3, b.r1.w2, b.r1.w3, b.r2.w2, b.r2.w3, b.r3.w2, b.r3.w3,
    b.r4.w2, b.r4.w3, b.r5.w2, b.r5.w3, b.r6.w2, b.r6.w3, b.r7.w2, b.r7.w3⟩,
   ⟨b.r0.w4, b.r0.w5, b.r1.w4, b.r1.w5, b.r2.w4, b.r2.w5, b.r3.w4, b.r3.w5,
    b.r4.w4, b.r4.w5, b.r5.w4, b.r5.w5, b.r6.w4, b.r6.w5, b.r7.w4, b.r7.w5⟩,
   ⟨b.r0.w6, b.r0.w7, b.r1.w6, b.r1.w7, b.r2.w6, b.r2.w7, b.r3.w6, b.r3.w7,
    b.r4.w6, b.r4.w7, b.r5.w6, b.r5.w7, b.r6.w6, b.r6.w7, b.r7.w6, b.r7.w7⟩,
   ⟨b.r0.w8, b.r0.w9, b.r1.w8, b.r1.w9, b.r2.w8, b.r2.w9, b.r3.w8, b.r3.w9,
    b.r4.w8, b.r4.w9, b.r5.w8, b.r5.w9, b.r6.w8, b.r6.w9, b.r7.w8, b.r7.w9⟩,
   ⟨b.r0.w10, b.r0.w11, b.r1.w10, b.r1.w11, b.r2.w10, b.r2.w11, b.r3.w10, b.r3.w11,
    b.r4.w10, b.r4.w11, b.r5.w10, b.r5.w11, b.r6.w10, b.r6.w11, b.r7.w10, b.r7.w11⟩,
   ⟨b.r0.w12, b.r0.w13, b.r1.w12, b.r1.w13, b.r2.w12, b.r2.w13, b.r3.w12, b.r3.w13,
    b.r4.w12, b.r4.w13, b.r5.w12, b.r5.w13, b.r6.w12, b.r6.w13, b.r7.w12, b.r7.w13⟩,
   ⟨b.r0.w14, b.r0.w15, b.r1.w14, b.r1.w15, b.r2.w14, b.r2.w15, b.r3.w14, b.r3.w15,
    b.r4.w14, b.r4.w15, b.r5.w14, b.r5.w15, b.r6.w14, b.r6.w15, b.r7.w14, b.r7.w15⟩⟩

def mixRows (b : Block) : Block :=
  ⟨b.r0.mix, b.r1.mix, b.r2.mix, b.r3.mix, b.r4.mix, b.r5.mix, b.r6.mix, b.r7.mix⟩

def compress (a b : Block) : Block :=
  let r := a.xor b
  (r.mixRows.transpose.mixRows.transpose).xor r

def words (b : Block) : List UInt64 :=
  [b.r0, b.r1, b.r2, b.r3, b.r4, b.r5, b.r6, b.r7].flatMap fun r =>
    [r.w0, r.w1, r.w2, r.w3, r.w4, r.w5, r.w6, r.w7,
     r.w8, r.w9, r.w10, r.w11, r.w12, r.w13, r.w14, r.w15]

def ofWords (words : List UInt64) : Block :=
  let w := words.toArray
  let row (i : Nat) : Row :=
    let word (j : Nat) : UInt64 := w.getD (16 * i + j) 0
    ⟨word 0, word 1, word 2, word 3, word 4, word 5, word 6, word 7,
     word 8, word 9, word 10, word 11, word 12, word 13, word 14, word 15⟩
  ⟨row 0, row 1, row 2, row 3, row 4, row 5, row 6, row 7⟩

end Block

/-- A chain of digests of 64 bytes, of each the first half, ended by a digest of `last` bytes. -/
def chain (last : Nat) : Nat → Bytes → Bytes
  | 0, message => Blake2b.hash last message
  | links + 1, message =>
    let digest := Blake2b.hash 64 message
    digest.take 32 ++ chain last links digest

def longHash (size : Nat) (message : Bytes) : Bytes :=
  let start := Bytes.littleEndian 4 size ++ message
  if size ≤ 64 then Blake2b.hash size start
  else
    let links := (size + 31) / 32 - 2
    chain (size - 32 * links) links start

def Block.ofBytes (bytes : Bytes) : Block :=
  Block.ofWords ((List.range 128).map fun i =>
    UInt64.ofNat (Bytes.ofLittleEndian ((bytes.drop (8 * i)).take 8)))

def Block.toBytes (b : Block) : Bytes :=
  b.words.flatMap fun w => Bytes.littleEndian 8 w.toNat

/-- How much work a derivation is: blocks of 1024 bytes and passes over them. -/
structure Cost where
  blocks : Nat
  passes : Nat

namespace Cost

def slice (cost : Cost) : Nat := cost.blocks / 4

/-- The pseudorandom words of a slice that does not look at the memory. -/
def addresses (cost : Cost) (pass slice : Nat) : Array UInt64 :=
  ((List.range ((cost.slice + 127) / 128)).flatMap fun i =>
    let input := Block.ofWords
      [UInt64.ofNat pass, 0, UInt64.ofNat slice, UInt64.ofNat cost.blocks,
       UInt64.ofNat cost.passes, 2, UInt64.ofNat (i + 1)]
    (Block.compress Block.zero (Block.compress Block.zero input)).words).toArray

/-- The block that the block `i` of a slice refers to, chosen by a pseudorandom word among those
that are complete, recent ones more often. -/
def reference (cost : Cost) (pass slice i : Nat) (word : UInt64) : Nat :=
  let area :=
    if pass = 0 then slice * cost.slice + i - 1
    else 3 * cost.slice + i - 1
  let x := (word &&& 0xffffffff).toNat
  let y := area * (x * x / Nat.pow 2 32) / Nat.pow 2 32
  let start := if pass = 0 ∨ slice = 3 then 0 else (slice + 1) * cost.slice
  (start + (area - 1 - y)) % cost.blocks

@[inline] def step (cost : Cost) (pass slice i : Nat) (fixed : Option (Array UInt64))
    (memory : Array Block) : Array Block :=
  let here := slice * cost.slice + i
  let before := memory.getD (if here = 0 then cost.blocks - 1 else here - 1) Block.zero
  let word := match fixed with
    | some words => words.getD i 0
    | none => before.r0.w0
  let other := memory.getD (cost.reference pass slice i word) Block.zero
  let block := before.compress other
  if pass = 0 then memory.setIfInBounds here block
  else
    let old := memory.getD here Block.zero
    memory.setIfInBounds here (block.xor old)

def fill (cost : Cost) (pass slice : Nat) (fixed : Option (Array UInt64)) :
    (left : Nat) → Array Block → Array Block
  | 0, memory => memory
  | left + 1, memory =>
    fill cost pass slice fixed left (cost.step pass slice (cost.slice - (left + 1)) fixed memory)

/-- All slices of all passes; the first two blocks of the memory are given. -/
def run (cost : Cost) (memory : Array Block) : Array Block :=
  (List.range cost.passes).foldl (fun memory pass =>
    (List.range 4).foldl (fun memory slice =>
      let fixed := if pass = 0 ∧ slice < 2 then some (cost.addresses pass slice) else none
      let left := if pass = 0 ∧ slice = 0 then cost.slice - 2 else cost.slice
      cost.fill pass slice fixed left memory) memory) memory

end Cost

/-- A key of `size` bytes from a passphrase and a salt, by version 19 with one lane. -/
def derive (cost : Cost) (size : Nat) (passphrase salt : Bytes) : Bytes :=
  let word (n : Nat) : Bytes := Bytes.littleEndian 4 n
  let seed := Blake2b.hash 64 <|
    word 1 ++ word size ++ word cost.blocks ++ word cost.passes ++ word 0x13 ++ word 2 ++
    word passphrase.length ++ passphrase ++ word salt.length ++ salt ++ word 0 ++ word 0
  let first (i : Nat) : Block := Block.ofBytes (longHash 1024 (seed ++ word i ++ word 0))
  let empty := (Array.replicate cost.blocks Block.zero)
  let memory := cost.run ((empty.setIfInBounds 0 (first 0)).setIfInBounds 1 (first 1))
  longHash size (memory.getD (cost.blocks - 1) Block.zero).toBytes

end ProviderWallet.Hash.Argon2id
