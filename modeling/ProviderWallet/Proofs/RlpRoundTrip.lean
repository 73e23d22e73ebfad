import ProviderWallet.Rlp

namespace ProviderWallet

namespace Bytes

@[simp] theorem minimal_zero : minimal 0 = [] := by
  rw [minimal, dif_pos rfl]

/-- A number is what its fewest digits say. -/
theorem toNat_minimal (n : Nat) : toNat (minimal n) = n := by
  induction n using minimal.induct with
  | case1 => rw [minimal_zero, toNat, List.foldl_nil]
  | case2 n positive ih =>
    rw [minimal, dif_neg positive, toNat_append_singleton, ih, UInt8.toNat_ofNat']
    omega

theorem minimal_ne_nil {n : Nat} (positive : n ≠ 0) : minimal n ≠ [] := by
  rw [minimal, dif_neg positive]
  simp

/-- No digit is wasted. -/
theorem head?_minimal (n : Nat) : (minimal n).head? ≠ some 0 := by
  induction n using minimal.induct with
  | case1 => simp
  | case2 n positive ih =>
    rw [minimal, dif_neg positive]
    by_cases last : n / 256 = 0
    · intro zero
      rw [last, minimal_zero] at zero
      have value : n % 2 ^ 8 = 0 := by
        rw [← UInt8.toNat_ofNat', Option.some.inj zero]
        rfl
      omega
    · obtain ⟨b, digits, shown⟩ := List.exists_cons_of_ne_nil (minimal_ne_nil last)
      rw [shown] at ih ⊢
      exact ih

theorem length_minimal_le {n width : Nat} (h : n < Nat.pow 256 width) :
    (minimal n).length ≤ width := by
  induction width generalizing n with
  | zero =>
    have : n < 1 := h
    obtain rfl : n = 0 := by omega
    simp
  | succ width ih =>
    rw [minimal]
    split
    · simp
    · have hq : n / 256 < Nat.pow 256 width :=
        Nat.div_lt_of_lt_mul (Nat.mul_comm (Nat.pow 256 width) 256 ▸ h)
      have := ih hq
      simp
      omega

end Bytes

namespace Rlp

theorem split?_append (front rest : Bytes) :
    split? front.length (front ++ rest) = some (front, rest) := by
  simp [split?]

def maxSize : Nat := Nat.pow 256 8

/-- A header starts with a byte that tells what comes, and its size is read back. -/
theorem exists_header {mark size : Nat} (small : mark ≤ listMark) (fits : size < maxSize) :
    ∃ first digits, header mark size = first :: digits ∧ mark ≤ first.toNat ∧
      first.toNat < mark + 64 ∧ ∀ content rest, content.length = size →
        readContent? mark first (digits ++ (content ++ rest)) = some (content, rest) := by
  have marks : listMark = 192 := rfl
  by_cases short : size < 56
  · have value : (UInt8.ofNat (mark + size)).toNat = mark + size := by
      rw [UInt8.toNat_ofNat']
      omega
    refine ⟨_, [], if_pos short, by omega, by omega, ?_⟩
    rintro content rest rfl
    rw [readContent?, value, Nat.add_sub_cancel_left]
    simp only [if_pos short]
    exact split?_append content rest
  · have length := Bytes.length_minimal_le fits
    have positive : (Bytes.minimal size).length ≠ 0 := by
      rw [Ne, List.length_eq_zero_iff]
      exact Bytes.minimal_ne_nil (by omega)
    have value : (UInt8.ofNat (mark + 55 + (Bytes.minimal size).length)).toNat =
        mark + 55 + (Bytes.minimal size).length := by
      rw [UInt8.toNat_ofNat']
      omega
    refine ⟨_, _, if_neg short, by omega, by omega, ?_⟩
    rintro content rest rfl
    have digits : mark + 55 + (Bytes.minimal content.length).length - mark - 55 =
        (Bytes.minimal content.length).length := by omega
    have canonical : ¬ ((Bytes.minimal content.length).head? = some 0 ∨ content.length < 56) := by
      simp [Bytes.head?_minimal, short]
    have long : ¬ mark + 55 + (Bytes.minimal content.length).length - mark < 56 := by omega
    rw [readContent?, value]
    simp only [if_neg long, digits, split?_append]
    rw [Option.bind_eq_bind, Option.bind_some]
    simp only [Bytes.toNat_minimal, if_neg canonical, split?_append]

theorem readItem?_small {b : UInt8} (small : b.toNat < bytesMark) (depth : Nat) (rest : Bytes) :
    readItem? (depth + 1) (b :: rest) = some (.bytes [b], rest) := by
  rw [readItem?, if_pos small]

/-- A content is read as it is, unless it is a byte that should stand for itself. -/
theorem readItem?_content {content : Bytes} (fits : content.length < maxSize)
    (marked : ∀ b, content = [b] → ¬ b.toNat < bytesMark) (depth : Nat) (rest : Bytes) :
    readItem? (depth + 1) (header bytesMark content.length ++ content ++ rest) =
      some (.bytes content, rest) := by
  have marks : listMark = bytesMark + 64 := rfl
  obtain ⟨first, digits, shown, low, high, reads⟩ :=
    exists_header (show bytesMark ≤ listMark by decide) fits
  rw [shown, List.append_assoc, List.cons_append, readItem?, if_neg (by omega),
    if_pos (by omega), reads content rest rfl, Option.bind_eq_bind, Option.bind_some]
  dsimp only
  split
  · rename_i b
    rw [if_neg (marked b rfl)]
  · rfl

/-- A byte string is read back, whatever follows it. -/
theorem readItem?_encodeBytes {content : Bytes} (fits : content.length < maxSize) (depth : Nat)
    (rest : Bytes) :
    readItem? (depth + 1) (encodeBytes content ++ rest) = some (.bytes content, rest) := by
  unfold encodeBytes
  split
  · rename_i b
    split
    · rename_i small
      exact readItem?_small small depth rest
    · rename_i large
      refine readItem?_content fits ?_ depth rest
      rintro c ⟨⟩
      exact large
  · rename_i other
    exact readItem?_content fits (fun b single => absurd single (other b)) depth rest

/-- A list is read back if its items are. -/
theorem readItem?_list {items : List Item} {depth : Nat} (fits : (encodeAll items).length < maxSize)
    (reads : readItems? depth (encodeAll items) = some items) (rest : Bytes) :
    readItem? (depth + 1) (encode (.list items) ++ rest) = some (.list items, rest) := by
  have marks : listMark = bytesMark + 64 := rfl
  obtain ⟨first, digits, shown, low, high, content⟩ :=
    exists_header (Nat.le_refl listMark) fits
  rw [encode, shown, List.append_assoc, List.cons_append, readItem?, if_neg (by omega),
    if_neg (by omega), content _ rest rfl, Option.bind_eq_bind, Option.bind_some]
  dsimp only
  rw [reads]
  rfl

theorem length_header_le {size : Nat} (fits : size < maxSize) (mark : Nat) :
    (header mark size).length ≤ 9 := by
  have digits := Bytes.length_minimal_le fits
  unfold header
  split
  · simp
  · rw [List.length_cons]
    omega

theorem length_header_pos (mark size : Nat) : 0 < (header mark size).length := by
  unfold header
  split <;> simp

theorem length_le_encodeBytes (content : Bytes) :
    content.length ≤ (encodeBytes content).length := by
  unfold encodeBytes
  split
  · split <;> simp
  · simp

theorem length_encodeBytes_le {content : Bytes} (fits : content.length < maxSize) :
    (encodeBytes content).length ≤ content.length + 9 := by
  have header := length_header_le fits bytesMark
  unfold encodeBytes
  split
  · split
    · simp
    · rw [List.length_append]
      exact Nat.add_le_add_right header 1
  · rw [List.length_append]
    omega

theorem length_encode_list_le {items : List Item} (fits : (encodeAll items).length < maxSize) :
    (encode (.list items)).length ≤ (encodeAll items).length + 9 := by
  have header := length_header_le fits listMark
  rw [encode, List.length_append]
  omega

theorem length_encodeAll_lt (items : List Item) :
    (encodeAll items).length < (encode (.list items)).length := by
  have header := length_header_pos listMark (encodeAll items).length
  rw [encode, List.length_append]
  omega

theorem length_encode_pos (item : Item) : 0 < (encode item).length := by
  cases item with
  | bytes content =>
    rw [encode, encodeBytes.eq_def]
    split
    · split <;> simp
    · have header := length_header_pos bytesMark content.length
      rw [List.length_append]
      omega
  | list items => exact Nat.zero_lt_of_lt (length_encodeAll_lt items)

mutual

/-- An item is read back, whatever follows it. -/
theorem readItem?_encode (item : Item) (depth : Nat) (fits : (encode item).length < maxSize)
    (deep : 2 * (encode item).length ≤ depth + 1) (rest : Bytes) :
    readItem? depth (encode item ++ rest) = some (item, rest) := by
  have positive := length_encode_pos item
  obtain ⟨depth, rfl⟩ : ∃ d, depth = d + 1 := ⟨depth - 1, by omega⟩
  match item with
  | .bytes content =>
    refine readItem?_encodeBytes (Nat.lt_of_le_of_lt (length_le_encodeBytes content) ?_) depth rest
    rwa [encode] at fits
  | .list items =>
    have shorter := length_encodeAll_lt items
    exact readItem?_list (by omega) (readItems?_encodeAll items depth (by omega) (by omega)) rest

/-- Items are read one by one, if the depth allows two calls for each byte. -/
theorem readItems?_encodeAll (items : List Item) (depth : Nat)
    (fits : (encodeAll items).length < maxSize) (deep : 2 * (encodeAll items).length ≤ depth) :
    readItems? depth (encodeAll items) = some items := by
  match items with
  | [] => rw [encodeAll, readItems?]
  | item :: items =>
    have positive := length_encode_pos item
    rw [encodeAll, List.length_append] at fits deep
    obtain ⟨depth, rfl⟩ : ∃ d, depth = d + 1 := ⟨depth - 1, by omega⟩
    have first := readItem?_encode item depth (by omega) (by omega) (encodeAll items)
    have rest := readItems?_encodeAll items depth (by omega) (by omega)
    have nonempty : encode item ++ encodeAll items ≠ [] := by
      simp [List.ne_nil_of_length_pos positive]
    rw [encodeAll, readItems?, first, Option.bind_eq_bind, Option.bind_some]
    · dsimp only
      rw [rest]
      rfl
    · exact nonempty

end

/-- What is written of an item that is not too long writes this item and nothing else. -/
theorem decode?_encode {item : Item} (fits : (encode item).length < maxSize) :
    decode? (encode item) = some item := by
  have reads := readItem?_encode item (2 * (encode item).length + 1) fits (by omega) []
  rw [List.append_nil] at reads
  rw [decode?, reads]

end Rlp

end ProviderWallet
