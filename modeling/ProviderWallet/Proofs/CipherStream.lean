import ProviderWallet.Cipher.Gcm
import ProviderWallet.Hash.Argon2id

namespace ProviderWallet

/-- What holds at the start of a loop and is kept by each of its turns holds at its end. -/
theorem foldl_range {β : Type} {f : β → Nat → β} {p : Nat → β → Prop} {b : β} (start : p 0 b)
    (turn : ∀ n b, p n b → p (n + 1) (f b n)) (n : Nat) : p n ((List.range n).foldl f b) := by
  induction n with
  | zero => exact start
  | succ n ih =>
    rw [List.range_succ, List.foldl_append]
    exact turn n _ ih

namespace Bytes

theorem length_xor (a b : Bytes) : (xor a b).length = min a.length b.length :=
  List.length_zipWith

/-- Adding bytes twice changes nothing. -/
theorem xor_xor {a b : Bytes} (h : a.length ≤ b.length) : xor (xor a b) b = a := by
  induction a generalizing b with
  | nil => rfl
  | cons x a ih =>
    cases b with
    | nil => simp at h
    | cons y b =>
      have rest : xor (xor a b) b = a := ih (by simpa using h)
      have first : x ^^^ y ^^^ y = x := by rw [UInt8.xor_assoc, UInt8.xor_self, UInt8.xor_zero]
      simp only [xor] at rest
      simp [xor, rest, first]

theorem length_littleEndian (width n : Nat) : (littleEndian width n).length = width := by
  induction width generalizing n with
  | zero => rfl
  | succ width ih => rw [littleEndian, List.length_cons, ih]

end Bytes

namespace Hash.Blake2b

theorem length_compress (h : List UInt64) (block : Bytes) (count : Nat) (last : Bool) :
    (compress h block count last).length = h.length := by
  simp [compress]

theorem length_absorb (h : List UInt64) (message : Bytes) (done : Nat) :
    (absorb h message done).length = h.length := by
  induction h, message, done using absorb.induct with
  | case1 h message done short => rw [absorb, dif_pos short, length_compress]
  | case2 h message done long ih => rw [absorb, dif_neg long, ih, length_compress]

/-- A digest has the size that is asked for. -/
theorem length_hash {size : Nat} (h : size ≤ 64) (message : Bytes) :
    (hash size message).length = size := by
  have words (ws : List UInt64) :
      (ws.flatMap fun x => Bytes.littleEndian 8 x.toNat).length = 8 * ws.length := by
    induction ws with
    | nil => rfl
    | cons w ws ih =>
      rw [List.flatMap_cons, List.length_append, ih, Bytes.length_littleEndian, List.length_cons]
      omega
  rw [hash, List.length_take, words, length_absorb]
  simp [initial]
  omega

end Hash.Blake2b

theorem Hash.Argon2id.length_derive (cost : Cost) {size : Nat} (h : size ≤ 64)
    (passphrase salt : Bytes) : (derive cost size passphrase salt).length = size := by
  rw [derive]
  simp only [longHash, if_pos h]
  exact Blake2b.length_hash h _

namespace Cipher.Aes256

def Complete (count : Nat) (words : Array Bytes) : Prop :=
  words.size = count ∧ ∀ i < count, (words.getD i []).length = 4

theorem Complete.push {count : Nat} {words : Array Bytes} (h : Complete count words)
    {word : Bytes} (size : word.length = 4) : Complete (count + 1) (words.push word) := by
  obtain ⟨count_eq, all⟩ := h
  refine ⟨by rw [Array.size_push, count_eq], fun i below => ?_⟩
  by_cases last : i = count
  · simp [last, ← count_eq, size]
  · have earlier := all i (by omega)
    rw [Array.getD_eq_getD_getElem?] at earlier ⊢
    rwa [Array.getElem?_push_lt (by omega), ← Array.getElem?_eq_getElem (by omega)]

/-- Every word is made of an earlier one and has its length. -/
theorem expand_complete {key : Bytes} (size : key.length = 32) : Complete 60 (expand key) := by
  unfold expand
  refine foldl_range (p := fun j (state : Array Bytes × UInt8) => Complete (8 + j) state.1)
    ⟨rfl, fun i small => ?_⟩ ?_ 52
  · have inside : 4 * i + 4 ≤ key.length := by omega
    simp [small]
    omega
  · rintro j ⟨words, constant⟩ complete
    have last : (words.getD (j + 8 - 1) []).length = 4 := complete.2 _ (by omega)
    have before : (words.getD (j + 8 - 8) []).length = 4 := complete.2 _ (by omega)
    refine complete.push ?_
    rw [Bytes.length_xor, before]
    dsimp only
    split
    · simp only [Bytes.length_xor, List.length_map, List.length_append, List.length_drop,
        List.length_take, last]
      rfl
    · split
      · rw [List.length_map, last]
        rfl
      · rw [last]
        rfl

theorem length_roundKey {words : Array Bytes} (h : Complete 60 words) {round : Nat}
    (below : round ≤ 14) : (roundKey words round).length = 16 := by
  have word (i : Nat) (small : i < 4) : (words.getD (4 * round + i) []).length = 4 :=
    h.2 _ (by omega)
  have h0 := word 0 (by decide)
  have h1 := word 1 (by decide)
  have h2 := word 2 (by decide)
  have h3 := word 3 (by decide)
  simp only [roundKey, List.range, List.range.loop, List.flatMap_cons, List.flatMap_nil,
    List.length_append, h0, h1, h2, h3, List.length_nil]

theorem length_shiftRows (state : Bytes) : (shiftRows state).length = 16 := by
  simp [shiftRows]

/-- A block is enciphered to a whole block. -/
theorem length_encipher {words : Array Bytes} (h : Complete 60 words) (block : Bytes) :
    (encipher words block).length = 16 := by
  rw [encipher]
  simp only [Bytes.length_xor, length_shiftRows, length_roundKey h (Nat.le_refl 14)]
  rfl

end Cipher.Aes256

namespace Cipher.Gcm

theorem blocks_nil : blocks [] = [] := by
  rw [blocks, dif_pos rfl]

/-- A first block that is full, or the only one. -/
theorem blocks_append {first rest : Bytes} (nonempty : first ≠ []) (short : first.length ≤ 16)
    (full : rest ≠ [] → first.length = 16) : blocks (first ++ rest) = first :: blocks rest := by
  have some_ : first ++ rest ≠ [] := by simp [nonempty]
  rw [blocks, dif_neg some_]
  by_cases none : rest = []
  · subst none
    rw [List.append_nil, List.take_of_length_le short, List.drop_of_length_le short]
  · rw [List.take_left' (full none), List.drop_left' (full none)]

def masked (pad : Nat → Bytes) (k : Nat) (text : Bytes) : Bytes :=
  ((blocks text).zipIdx k).flatMap fun (block, i) => Bytes.xor block (pad i)

theorem masked_nil (pad : Nat → Bytes) (k : Nat) : masked pad k [] = [] := by
  rw [masked, blocks_nil]
  rfl

theorem masked_append (pad : Nat → Bytes) (k : Nat) {first rest : Bytes} (nonempty : first ≠ [])
    (short : first.length ≤ 16) (full : rest ≠ [] → first.length = 16) :
    masked pad k (first ++ rest) = Bytes.xor first (pad k) ++ masked pad (k + 1) rest := by
  rw [masked, blocks_append nonempty short full, List.zipIdx_cons, List.flatMap_cons]
  rfl

/-- A text that is not empty has a first block. -/
theorem exists_first {text : Bytes} (nonempty : text ≠ []) :
    ∃ first rest, text = first ++ rest ∧ first ≠ [] ∧ first.length ≤ 16 ∧
      (rest ≠ [] → first.length = 16) ∧ rest.length < text.length := by
  have long : 0 < text.length := List.length_pos_iff.mpr nonempty
  refine ⟨text.take 16, text.drop 16, (List.take_append_drop 16 text).symm, ?_, ?_, ?_, ?_⟩
  · simp [nonempty]
  · rw [List.length_take]
    omega
  · intro more
    have : 0 < (text.drop 16).length := List.length_pos_iff.mpr more
    rw [List.length_drop] at this
    rw [List.length_take]
    omega
  · rw [List.length_drop]
    omega

/-- Adding blocks of full length twice changes nothing. -/
theorem masked_masked {pad : Nat → Bytes} (whole : ∀ i, (pad i).length = 16) (k : Nat)
    (text : Bytes) : masked pad k (masked pad k text) = text := by
  induction size_eq : text.length using Nat.strongRecOn generalizing text k with
  | ind _ ih =>
  subst size_eq
  by_cases empty : text = []
  · rw [empty, masked_nil, masked_nil]
  obtain ⟨first, rest, rfl, nonempty, short, full, shorter⟩ := exists_first empty
  have fits : first.length ≤ (pad k).length := by rw [whole]; exact short
  have size : (Bytes.xor first (pad k)).length = first.length := by
    rw [Bytes.length_xor, Nat.min_eq_left fits]
  have nonempty' : Bytes.xor first (pad k) ≠ [] := by
    rw [← List.length_pos_iff, size]
    exact List.length_pos_iff.mpr nonempty
  have full' : masked pad (k + 1) rest ≠ [] → (Bytes.xor first (pad k)).length = 16 := by
    intro more
    rw [size]
    refine full ?_
    rintro rfl
    exact more (masked_nil pad (k + 1))
  rw [masked_append pad k nonempty short full,
    masked_append pad k nonempty' (by rw [size]; exact short) full', Bytes.xor_xor fits,
    ih rest.length shorter (k + 1) rest rfl]

theorem stream_eq_masked (words : Array Bytes) (nonce text : Bytes) :
    stream words nonce text =
      masked (fun i => Aes256.encipher words (counter nonce (i + 2))) 0 text := rfl

/-- Adding the stream twice changes nothing. -/
theorem stream_stream {words : Array Bytes} (complete : Aes256.Complete 60 words)
    (nonce text : Bytes) : stream words nonce (stream words nonce text) = text := by
  rw [stream_eq_masked, stream_eq_masked]
  exact masked_masked (fun i => Aes256.length_encipher complete _) 0 text

theorem length_tag {words : Array Bytes} (complete : Aes256.Complete 60 words)
    (nonce ciphertext : Bytes) : (tag words nonce ciphertext).length = 16 := by
  rw [tag]
  simp only [Bytes.length_xor, Bytes.length_ofNat, Aes256.length_encipher complete]
  rfl

/-- What was encrypted is decrypted with the same key and nonce. -/
theorem decrypt_encrypt {key : Bytes} (size : key.length = 32) (nonce plaintext : Bytes) :
    decrypt key nonce (encrypt key nonce plaintext) = some plaintext := by
  have complete := Aes256.expand_complete size
  generalize words_eq : Aes256.expand key = words at complete
  generalize cipher_eq : stream words nonce plaintext = ciphertext
  have length := length_tag complete nonce ciphertext
  have shown : encrypt key nonce plaintext = ciphertext ++ tag words nonce ciphertext := by
    simp only [encrypt, words_eq, cipher_eq]
  have long : ¬ (ciphertext ++ tag words nonce ciphertext).length < 16 := by
    rw [List.length_append, length]
    omega
  have cut : (ciphertext ++ tag words nonce ciphertext).length - 16 = ciphertext.length := by
    rw [List.length_append, length]
    omega
  rw [shown, decrypt, if_neg long]
  simp only [words_eq, cut, List.take_left, List.drop_left, if_pos]
  rw [← cipher_eq, stream_stream complete]

end Cipher.Gcm

end ProviderWallet
