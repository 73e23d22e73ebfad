import ProviderWallet.Hash.Keccak
import ProviderWallet.Hash.Sha256

namespace ProviderWallet.Hash.Keccak

structure Plane where
  (a b c d e : UInt64)

namespace Plane

def xor (p q : Plane) : Plane :=
  ⟨p.a ^^^ q.a, p.b ^^^ q.b, p.c ^^^ q.c, p.d ^^^ q.d, p.e ^^^ q.e⟩

def rotate (p turns : Plane) : Plane :=
  ⟨rotateLeft p.a turns.a, rotateLeft p.b turns.b, rotateLeft p.c turns.c, rotateLeft p.d turns.d,
   rotateLeft p.e turns.e⟩

def mixed (p : Plane) : Plane :=
  ⟨p.e ^^^ rotateLeft p.b 1, p.a ^^^ rotateLeft p.c 1, p.b ^^^ rotateLeft p.d 1,
   p.c ^^^ rotateLeft p.e 1, p.d ^^^ rotateLeft p.a 1⟩

def kept (p : Plane) : Plane :=
  ⟨p.a ^^^ (~~~p.b &&& p.c), p.b ^^^ (~~~p.c &&& p.d), p.c ^^^ (~~~p.d &&& p.e),
   p.d ^^^ (~~~p.e &&& p.a), p.e ^^^ (~~~p.a &&& p.b)⟩

def lanes (p : Plane) : List UInt64 :=
  [p.a, p.b, p.c, p.d, p.e]

end Plane

structure Planes where
  (p q r s t : Plane)

namespace Planes

def lanes (x : Planes) : Array UInt64 :=
  (x.p.lanes ++ x.q.lanes ++ x.r.lanes ++ x.s.lanes ++ x.t.lanes).toArray

def ofFn (f : Nat → UInt64) : Planes :=
  ⟨⟨f 0, f 1, f 2, f 3, f 4⟩, ⟨f 5, f 6, f 7, f 8, f 9⟩, ⟨f 10, f 11, f 12, f 13, f 14⟩,
   ⟨f 15, f 16, f 17, f 18, f 19⟩, ⟨f 20, f 21, f 22, f 23, f 24⟩⟩

def round (x : Planes) (constant : UInt64) : Planes :=
  let m := ((((x.p.xor x.q).xor x.r).xor x.s).xor x.t).mixed
  let p := (x.p.xor m).rotate ⟨0, 1, 62, 28, 27⟩
  let q := (x.q.xor m).rotate ⟨36, 44, 6, 55, 20⟩
  let r := (x.r.xor m).rotate ⟨3, 10, 43, 25, 39⟩
  let s := (x.s.xor m).rotate ⟨41, 45, 15, 21, 8⟩
  let t := (x.t.xor m).rotate ⟨18, 2, 61, 56, 14⟩
  let first := Plane.kept ⟨p.a, q.b, r.c, s.d, t.e⟩
  ⟨{ first with a := first.a ^^^ constant }, Plane.kept ⟨p.d, q.e, r.a, s.b, t.c⟩,
   Plane.kept ⟨p.b, q.c, r.d, s.e, t.a⟩, Plane.kept ⟨p.e, q.a, r.b, s.c, t.d⟩,
   Plane.kept ⟨p.c, q.d, r.e, s.a, t.b⟩⟩

theorem round_lanes (x : Planes) (constant : UInt64) :
    Keccak.round x.lanes constant = (x.round constant).lanes := by
  rfl

def permute (x : Planes) : Planes :=
  constants.foldl round x

/-- All rounds, plane by plane. -/
theorem permute_lanes (x : Planes) : Keccak.permute x.lanes = x.permute.lanes := by
  rw [Keccak.permute, permute]
  induction constants generalizing x with
  | nil => rfl
  | cons c cs ih => rw [List.foldl_cons, List.foldl_cons, round_lanes, ih]

end Planes

/-- The digest of a message that fits into one block. -/
def hashShort (message : Bytes) : Bytes :=
  let block := pad message
  let x := (Planes.ofFn fun i =>
    UInt64.ofNat (Bytes.ofLittleEndian ((block.drop (8 * i)).take 8))).permute
  [x.p.a, x.p.b, x.p.c, x.p.d].flatMap fun lane => Bytes.littleEndian 8 lane.toNat

theorem length_pad {message : Bytes} (short : message.length < rate) :
    (pad message).length = rate := by
  have whole : message.length % rate = message.length := Nat.mod_eq_of_lt short
  rw [pad, whole]
  split
  · rw [List.length_append, List.length_singleton]
    omega
  · simp only [List.length_append, List.length_cons, List.length_replicate, List.length_nil]
    omega

/-- A message that fits into one block is padded to that block. -/
theorem hash_short {message : Bytes} (short : message.length < rate) :
    hash message = hashShort message := by
  have size := length_pad short
  have absorbed (lanes : Array UInt64) :
      absorb lanes (pad message) = absorbBlock lanes (pad message) := by
    rw [absorb, dif_neg (by omega), absorb, dif_pos (by simp [size, rate]),
      List.take_of_length_le (by omega)]
  have start (i : Nat) (x : UInt64) : (Array.replicate 25 (0 : UInt64)).getD i 0 ^^^ x = x := by
    rw [Array.getD_eq_getD_getElem?, Array.getElem?_replicate]
    split <;> simp
  have loaded (f : Nat → UInt64) : ((List.range 25).map f).toArray = (Planes.ofFn f).lanes := rfl
  rw [hash, hashShort, absorbed, absorbBlock]
  simp only [start]
  rw [loaded, Planes.permute_lanes]
  rfl

end ProviderWallet.Hash.Keccak

namespace ProviderWallet.Hash.Sha256

def nextWord (latest : List UInt32) : UInt32 :=
  let x := latest.getD 14 0
  let y := latest.getD 1 0
  let s0 := rotateRight x 7 ^^^ rotateRight x 18 ^^^ (x >>> 3)
  let s1 := rotateRight y 17 ^^^ rotateRight y 19 ^^^ (y >>> 10)
  latest.getD 15 0 + s0 + latest.getD 6 0 + s1

def continued : Nat → List UInt32 → List UInt32
  | 0, latest => latest
  | more + 1, latest => continued more (nextWord latest :: latest)

def firstWords (block : Bytes) : List UInt32 :=
  (List.range 16).map fun i => UInt32.ofNat (Bytes.toNat ((block.drop (4 * i)).take 4))

theorem getD_reverse_toArray {latest : List UInt32} {i j : Nat}
    (length : latest.length = i + j + 1) :
    latest.reverse.toArray.getD i 0 = latest.getD j 0 := by
  rw [Array.getD_eq_getD_getElem?, List.getElem?_toArray, List.getElem?_reverse (by omega),
    List.getD_eq_getElem?_getD]
  congr 2
  omega

/-- The schedule is continued word by word from those of the block. -/
theorem schedule_toList (block : Bytes) :
    (schedule block).toList = (continued 48 (firstWords block).reverse).reverse := by
  have all (more i : Nat) (latest : List UInt32) (length : latest.length = 16 + i) :
      ((List.range' i more).foldl (fun (w : Array UInt32) i =>
        let x := w.getD (i + 1) 0
        let y := w.getD (i + 14) 0
        let s0 := rotateRight x 7 ^^^ rotateRight x 18 ^^^ (x >>> 3)
        let s1 := rotateRight y 17 ^^^ rotateRight y 19 ^^^ (y >>> 10)
        w.push (w.getD i 0 + s0 + w.getD (i + 9) 0 + s1)) latest.reverse.toArray).toList =
        (continued more latest).reverse := by
    induction more generalizing i latest with
    | zero => rfl
    | succ more ih =>
      rw [List.range'_succ, List.foldl_cons, continued,
        ← ih (i + 1) _ (by rw [List.length_cons, length]; omega)]
      dsimp only
      rw [getD_reverse_toArray (j := 15) (by omega), getD_reverse_toArray (j := 14) (by omega),
        getD_reverse_toArray (j := 6) (by omega), getD_reverse_toArray (j := 1) (by omega)]
      rw [List.reverse_cons, ← List.push_toArray]
      rfl
  have start := all 48 0 (firstWords block).reverse (by simp [firstWords])
  rw [List.reverse_reverse] at start
  rw [← start, schedule, List.range_eq_range']
  rfl

/-- Taking words by their places is taking them in turn. -/
theorem foldl_zipIdx {constants words : List UInt32} (same : constants.length = words.length)
    (s : Working) :
    constants.zipIdx.foldl (fun s (k, i) => s.round (k + words.toArray.getD i 0)) s =
      (List.zipWith (· + ·) constants words).foldl Working.round s := by
  have all (constants words before : List UInt32) (same : constants.length = words.length)
      (s : Working) :
      (constants.zipIdx before.length).foldl
        (fun s (k, i) => s.round (k + (before ++ words).toArray.getD i 0)) s =
        (List.zipWith (· + ·) constants words).foldl Working.round s := by
    induction constants generalizing words before s with
    | nil => rfl
    | cons k constants ih =>
      obtain ⟨word, words, rfl⟩ :=
        List.exists_cons_of_length_pos (by rw [← same, List.length_cons]; omega)
      have found : (before ++ word :: words).toArray.getD before.length 0 = word := by
        simp [Array.getD_eq_getD_getElem?]
      have later := ih words (before ++ [word]) (Nat.succ.inj same)
      rw [List.length_append, List.length_singleton, ← List.append_cons] at later
      rw [List.zipIdx_cons, List.foldl_cons, List.zipWith_cons_cons, List.foldl_cons, later]
      dsimp only
      rw [found]
  exact all constants words [] same s

theorem length_continued (more : Nat) (latest : List UInt32) :
    (continued more latest).length = latest.length + more := by
  induction more generalizing latest with
  | zero => rfl
  | succ more ih =>
    rw [continued, ih, List.length_cons]
    omega

def compressQuick (h : List UInt32) (block : Bytes) : List UInt32 :=
  let words := (continued 48 (firstWords block).reverse).reverse
  let s := (List.zipWith (· + ·) constants words).foldl Working.round (Working.ofList h)
  List.zipWith (· + ·) h s.toList

theorem compress_eq (h : List UInt32) (block : Bytes) :
    compress h block = compressQuick h block := by
  have words : schedule block = (continued 48 (firstWords block).reverse).reverse.toArray := by
    rw [← schedule_toList, Array.toArray_toList]
  have size : constants.length = (continued 48 (firstWords block).reverse).reverse.length := by
    rw [List.length_reverse, length_continued, List.length_reverse]
    rfl
  rw [compress, compressQuick, words, foldl_zipIdx size]

def absorbQuick : (count : Nat) → (h : List UInt32) → Bytes → List UInt32
  | 0, h, _ => h
  | count + 1, h, blocks => absorbQuick count (compressQuick h (blocks.take 64)) (blocks.drop 64)

theorem absorb_eq (h : List UInt32) (blocks : Bytes) :
    absorb h blocks = absorbQuick (blocks.length / 64) h blocks := by
  induction h, blocks using absorb.induct with
  | case1 h blocks short =>
    rw [absorb, dif_pos short, Nat.div_eq_of_lt short, absorbQuick]
  | case2 h blocks long ih =>
    have count : blocks.length / 64 = (blocks.drop 64).length / 64 + 1 := by
      rw [List.length_drop]
      omega
    rw [absorb, dif_neg long, ih, count, absorbQuick, compress_eq]

def hashQuick (message : Bytes) : Bytes :=
  let padded := pad message
  (absorbQuick (padded.length / 64) initial padded).flatMap fun x => Bytes.ofNat 4 x.toNat

theorem hash_eq (message : Bytes) : hash message = hashQuick message := by
  rw [hash, absorb_eq, hashQuick]

def keyedQuick (key message : Bytes) : Bytes :=
  let key := if key.length ≤ 64 then key else hashQuick key
  let key := key ++ List.replicate (64 - key.length) 0
  hashQuick (key.map (· ^^^ 0x5c) ++ hashQuick (key.map (· ^^^ 0x36) ++ message))

/-- The keyed digest, with all blocks taken in turn. -/
theorem keyed_eq (key message : Bytes) : keyed key message = keyedQuick key message := by
  simp only [keyed, keyedQuick, hash_eq]

end ProviderWallet.Hash.Sha256
