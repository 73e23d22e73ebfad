import ProviderWallet.Abi
import ProviderWallet.Proofs.Spelling

namespace ProviderWallet.Abi

def Holds (data : Bytes) (offset : Nat) (bytes : Bytes) : Prop :=
  ∃ front rest, front.length = offset ∧ data = front ++ (bytes ++ rest)

namespace Holds

variable {data a b : Bytes} {offset : Nat}

theorem of_append (a rest : Bytes) : Holds (a ++ rest) 0 a :=
  ⟨[], rest, rfl, rfl⟩

theorem left (h : Holds data offset (a ++ b)) : Holds data offset a := by
  obtain ⟨front, rest, at_offset, rfl⟩ := h
  exact ⟨front, b ++ rest, at_offset, by simp⟩

theorem right (h : Holds data offset (a ++ b)) : Holds data (offset + a.length) b := by
  obtain ⟨front, rest, rfl, rfl⟩ := h
  exact ⟨front ++ a, rest, by simp, by simp⟩

theorem offset_le (h : Holds data offset a) : offset + a.length ≤ data.length := by
  obtain ⟨front, rest, rfl, rfl⟩ := h
  simp only [List.length_append]
  omega

theorem drop_eq (h : Holds data offset a) : ∃ rest, data.drop offset = a ++ rest := by
  obtain ⟨front, rest, rfl, rfl⟩ := h
  exact ⟨rest, List.drop_left⟩

end Holds

@[simp] theorem length_word (n : Nat) : (word n).length = 32 :=
  Bytes.length_ofNat 32 n

theorem wordAt?_of_holds {data : Bytes} {offset n : Nat} (h : Holds data offset (word n))
    (small : n < Nat.pow 2 256) : wordAt? data offset = some n := by
  have inside := h.offset_le
  rw [length_word] at inside
  obtain ⟨rest, there⟩ := h.drop_eq
  have same : Bytes.toNat (word n) = n := Bytes.toNat_ofNat small
  rw [wordAt?, if_pos inside, there, List.take_left' (length_word n), same]

/-- What is read of data that is cut off is read of the whole. -/
theorem wordAt?_take {data : Bytes} {n offset start : Nat}
    (h : wordAt? (data.take n) offset = some start) :
    offset + 32 ≤ n ∧ wordAt? data offset = some start := by
  unfold wordAt? at h
  split at h
  · rename_i inside
    rw [List.length_take] at inside
    have short : offset + 32 ≤ n := by omega
    have long : offset + 32 ≤ data.length := by omega
    refine ⟨short, ?_⟩
    rw [wordAt?, if_pos long, ← h, List.drop_take, List.take_take, Nat.min_eq_left (by omega)]
  · cases h

theorem bodyAt?_of_holds {data body : Bytes} {offset start : Nat}
    (head : Holds data offset (word start)) (there : Holds data start body)
    (small : start < Nat.pow 2 256) : bodyAt? data offset = some (data.drop start) := by
  have inside := there.offset_le
  have reached : start ≤ data.length := by omega
  simp [bodyAt?, wordAt?_of_holds head small, reached]

/-- Data that is cut off leads to a body only where the whole data does, and to no more of it than
is left. -/
theorem bodyAt?_take {data body : Bytes} {n offset start : Nat}
    (head : Holds data offset (word start)) (small : start < Nat.pow 2 256)
    (h : bodyAt? (data.take n) offset = some body) :
    offset + 32 ≤ n ∧ start ≤ n ∧ body = (data.drop start).take (n - start) := by
  unfold bodyAt? at h
  obtain ⟨word, found, h⟩ := Option.bind_eq_some_iff.mp h
  obtain ⟨short, found⟩ := wordAt?_take found
  rw [wordAt?_of_holds head small] at found
  cases found
  split at h
  · rename_i inside
    rw [List.length_take] at inside
    cases h
    exact ⟨short, by omega, List.drop_take⟩
  · cases h

/-- A reader reads a value from the bytes that stand for it, whatever follows them, and from
nothing shorter. -/
structure Reads {α : Type} (read : Bytes → Option α) (bytes : Bytes) (a : α) : Prop where
  whole (rest : Bytes) : read (bytes ++ rest) = some a
  needs {rest : Bytes} {n : Nat} {b : α} (some : read ((bytes ++ rest).take n) = some b) :
    bytes.length ≤ n

namespace Reads

variable {α : Type} {read : Bytes → Option α} {body data : Bytes} {offset start : Nat} {a : α}

/-- What is read where it stands is also read through the word that tells where. -/
theorem at_offset (reads : Reads read body a) (head : Holds data offset (word start))
    (there : Holds data start body) (small : start < Nat.pow 2 256) :
    (bodyAt? data offset).bind read = some a := by
  obtain ⟨rest, after⟩ := there.drop_eq
  rw [bodyAt?_of_holds head there small, Option.bind_some, after, reads.whole]

/-- Nothing is read there if the word or the body breaks off. -/
theorem needs_at_offset (reads : Reads read body a) (head : Holds data offset (word start))
    (there : Holds data start body) (small : start < Nat.pow 2 256) {n : Nat} {b : α}
    (h : (bodyAt? (data.take n) offset).bind read = some b) :
    offset + 32 ≤ n ∧ start + body.length ≤ n := by
  obtain ⟨found, h, read⟩ := Option.bind_eq_some_iff.mp h
  obtain ⟨short, reached, rfl⟩ := bodyAt?_take head small h
  obtain ⟨rest, after⟩ := there.drop_eq
  rw [after] at read
  have := reads.needs read
  exact ⟨short, by omega⟩

end Reads

theorem length_padRight (bytes : Bytes) :
    (Bytes.padRight 32 bytes).length = (bytes.length + 31) / 32 * 32 := by
  rw [Bytes.padRight, List.length_append, List.length_replicate]
  omega

theorem length_textBody (s : String) :
    (textBody s).length = 32 + ((Bytes.ofText s).length + 31) / 32 * 32 := by
  simp only [textBody, List.length_append, length_word, length_padRight]

/-- A text is read back together with the bytes that fill its last word. -/
theorem readText?_reads {s : String} (fits : (textBody s).length < Nat.pow 2 256) :
    Reads readText? (textBody s) s := by
  have size := length_textBody s
  have small : (Bytes.ofText s).length < Nat.pow 2 256 := by omega
  have head (rest : Bytes) :
      wordAt? (textBody s ++ rest) 0 = some (Bytes.ofText s).length :=
    wordAt?_of_holds (Holds.of_append (textBody s) rest).left small
  refine ⟨fun rest => ?_, fun {rest n b} read => ?_⟩
  · have there : 32 + ((Bytes.ofText s).length + 31) / 32 * 32 ≤ (textBody s ++ rest).length := by
      rw [List.length_append, size]
      omega
    have text : ((textBody s ++ rest).drop 32).take (Bytes.ofText s).length = Bytes.ofText s := by
      rw [textBody, List.append_assoc, List.drop_left' (length_word _), Bytes.padRight,
        List.append_assoc, List.take_left]
    simp only [readText?, head, Option.bind_eq_bind, Option.bind_some, if_pos there, text,
      Text.Utf8.decodeLossy_ofText]
  · unfold readText? at read
    obtain ⟨count, found, read⟩ := Option.bind_eq_some_iff.mp read
    obtain ⟨-, found⟩ := wordAt?_take found
    rw [head] at found
    cases found
    split at read
    · rename_i inside
      rw [List.length_take] at inside
      omega
    · cases read

def Part.head (start : Nat) : Part → Bytes
  | .inline word => word
  | .apart _ => word start

def Part.body : Part → Bytes
  | .inline _ => []
  | .apart body => body

theorem heads_cons (start : Nat) (p : Part) (parts : List Part) :
    heads start (p :: parts) = p.head start ++ heads (start + p.body.length) parts := by
  cases p <;> rfl

theorem bodies_cons (p : Part) (parts : List Part) :
    bodies (p :: parts) = p.body ++ bodies parts := by
  cases p <;> rfl

theorem Value.length_head (v : Value) (start : Nat) : (v.part.head start).length = 32 := by
  cases v <;> exact length_word _

theorem length_heads (values : List Value) (start : Nat) :
    (heads start (values.map Value.part)).length = 32 * values.length := by
  induction values generalizing start with
  | nil => rfl
  | cons v values ih =>
    rw [List.map_cons, heads_cons, List.length_append, v.length_head, ih, List.length_cons]
    omega

/-- Each value has one word, and behind the words stands what does not fit into them. -/
theorem length_encode (values : List Value) :
    (encode values).length = 32 * values.length + (bodies (values.map Value.part)).length := by
  rw [encode, layout, List.length_append, length_heads]

/-- A value is read where its word and what stands apart are, and needs both. -/
structure Value.Legible (v : Value) : Prop where
  whole {data : Bytes} {offset start : Nat} (head : Holds data offset (v.part.head start))
    (body : Holds data start v.part.body) (fits : start + v.part.body.length < Nat.pow 2 256) :
    readValue? data offset v.ty = some v
  needs {data : Bytes} {offset start n : Nat} {w : Value}
    (head : Holds data offset (v.part.head start)) (body : Holds data start v.part.body)
    (fits : start + v.part.body.length < Nat.pow 2 256)
    (read : readValue? (data.take n) offset v.ty = some w) :
    offset + 32 ≤ n ∧ start + v.part.body.length ≤ max start n

section

variable {values : List Value} {data : Bytes} {offset start : Nat}

/-- Values are read in turn where their words and their bodies stand. -/
theorem readValues?_of_holds (legible : ∀ v ∈ values, v.Legible)
    (head : Holds data offset (heads start (values.map Value.part)))
    (body : Holds data start (bodies (values.map Value.part)))
    (fits : start + (bodies (values.map Value.part)).length < Nat.pow 2 256) :
    readValues? data offset (values.map Value.ty) = some values := by
  induction values generalizing offset start with
  | nil => rfl
  | cons v values ih =>
    rw [List.map_cons, heads_cons] at head
    rw [List.map_cons, bodies_cons] at body fits
    rw [List.length_append] at fits
    have first := (legible v List.mem_cons_self).whole head.left body.left (by omega)
    have next := head.right
    rw [v.length_head] at next
    have rest := ih (fun w among => legible w (List.mem_cons_of_mem v among)) next body.right
      (by omega)
    simp [readValues?, first, rest]

/-- They are not read if any of this breaks off. -/
theorem readValues?_needs (legible : ∀ v ∈ values, v.Legible)
    (head : Holds data offset (heads start (values.map Value.part)))
    (body : Holds data start (bodies (values.map Value.part)))
    (fits : start + (bodies (values.map Value.part)).length < Nat.pow 2 256) {n : Nat}
    {found : List Value} (h : readValues? (data.take n) offset (values.map Value.ty) = some found) :
    offset + 32 * values.length ≤ max offset n ∧
      start + (bodies (values.map Value.part)).length ≤ max start n := by
  induction values generalizing offset start found with
  | nil => exact ⟨Nat.le_max_left offset n, Nat.le_max_left start n⟩
  | cons v values ih =>
    rw [List.map_cons, heads_cons] at head
    rw [List.map_cons, bodies_cons] at body fits
    rw [List.length_append] at fits
    rw [List.map_cons, readValues?] at h
    obtain ⟨w, first, h⟩ := Option.bind_eq_some_iff.mp h
    obtain ⟨others, rest, -⟩ := Option.bind_eq_some_iff.mp h
    have next := head.right
    rw [v.length_head] at next
    have needed := (legible v List.mem_cons_self).needs head.left body.left (by omega) first
    have later := ih (fun w among => legible w (List.mem_cons_of_mem v among)) next body.right
      (by omega) rest
    rw [List.map_cons, bodies_cons, List.length_append, List.length_cons]
    omega

end

theorem decode_reads_of {values : List Value} (legible : ∀ v ∈ values, v.Legible)
    (fits : (encode values).length < Nat.pow 2 256) :
    Reads (decode (values.map Value.ty)) (encode values) values := by
  rw [length_encode] at fits
  have head (rest : Bytes) : Holds (encode values ++ rest) 0
      (heads (32 * values.length) (values.map Value.part)) := by
    have h := (Holds.of_append (encode values) rest).left
    rwa [List.length_map] at h
  have body (rest : Bytes) : Holds (encode values ++ rest) (32 * values.length)
      (bodies (values.map Value.part)) := by
    have h := (Holds.of_append (encode values) rest).right
    rwa [length_heads, Nat.zero_add] at h
  refine ⟨fun rest => ?_, fun {rest n found} read => ?_⟩
  · exact readValues?_of_holds legible (head rest) (body rest) fits
  · have needed := readValues?_needs legible (head rest) (body rest) fits read
    rw [length_encode]
    omega

namespace Value

/-- A value of one word is read from that word alone. -/
theorem legible_inline {v : Value} {n : Nat} {f : Nat → Value} (small : n < Nat.pow 2 256)
    (part : v.part = .inline (word n)) (same : f n = v)
    (reads : ∀ data offset, readValue? data offset v.ty = (wordAt? data offset).map f) :
    v.Legible := by
  refine ⟨fun head _ _ => ?_, fun {data offset start k w} head _ _ read => ?_⟩
  · rw [part] at head
    rw [reads, wordAt?_of_holds head small, Option.map_some, same]
  · rw [reads] at read
    obtain ⟨_, found, -⟩ := Option.map_eq_some_iff.mp read
    rw [part]
    exact ⟨(wordAt?_take found).1, Nat.le_max_left start k⟩

/-- A value whose word tells where it starts is read from there. -/
theorem legible_apart {v : Value} {α : Type} {body : Bytes} {read : Bytes → Option α} {a : α}
    {f : α → Value} (part : v.part = .apart body) (same : f a = v)
    (reads : body.length < Nat.pow 2 256 → Reads read body a)
    (reader : ∀ data offset,
      readValue? data offset v.ty = ((bodyAt? data offset).bind read).map f) :
    v.Legible := by
  refine ⟨fun {data offset start} head there fits => ?_,
    fun {data offset start n w} head there fits found => ?_⟩
  · rw [part] at head there fits
    have fits : start + body.length < Nat.pow 2 256 := fits
    rw [reader, (reads (by omega)).at_offset head there (by omega), Option.map_some, same]
  · rw [part] at head there fits ⊢
    have fits : start + body.length < Nat.pow 2 256 := fits
    rw [reader] at found
    obtain ⟨b, found, -⟩ := Option.map_eq_some_iff.mp found
    obtain ⟨word, whole⟩ := (reads (by omega)).needs_at_offset head there (by omega) found
    exact ⟨word, Nat.le_trans whole (Nat.le_max_right start n)⟩

theorem legible_text (s : String) : (Value.text s).Legible := by
  refine legible_apart (f := .text) rfl rfl readText?_reads ?_
  intro data offset
  simp only [ty, readValue?]
  cases bodyAt? data offset with
  | none => rfl
  | some body => cases read : readText? body <;> simp [read]

end Value

/-- The texts of a list are read like values that stand next to each other. -/
theorem readValues?_texts (items : Bytes) (first count : Nat) :
    readValues? items (32 * first) (List.replicate count .text) =
      ((List.range' first count).mapM fun i => (bodyAt? items (32 * i)).bind readText?).map
        (List.map Value.text) := by
  induction count generalizing first with
  | zero => rfl
  | succ count ih =>
    have next : 32 * first + 32 = 32 * (first + 1) := by omega
    rw [List.replicate_succ, readValues?, next, ih, List.range'_succ, List.mapM_cons]
    generalize (List.range' (first + 1) count).mapM
      (fun i => (bodyAt? items (32 * i)).bind readText?) = rest
    simp only [readValue?]
    cases bodyAt? items (32 * first) with
    | none => rfl
    | some body => cases read : readText? body <;> cases rest <;> simp [read]

def textsBody (ss : List String) : Bytes :=
  word ss.length ++ encode (ss.map .text)

theorem part_texts (ss : List String) : (Value.texts ss).part = .apart (textsBody ss) := by
  simp [Value.part, textsBody, encode, Function.comp_def]

theorem readTexts?_eq {data : Bytes} {count : Nat} (head : wordAt? data 0 = some count)
    (room : 32 * count ≤ (data.drop 32).length) :
    (readTexts? data).map (List.map Value.text) =
      decode (List.replicate count .text) (data.drop 32) := by
  have texts := readValues?_texts (data.drop 32) 0 count
  rw [← List.range_eq_range', Nat.mul_zero] at texts
  rw [decode, texts, readTexts?, head]
  simp only [Option.bind_eq_bind, Option.bind_some, if_pos room]

/-- A list is not read if the words of its texts do not fit into the data. -/
theorem readTexts?_room {data : Bytes} {ss : List String} (h : readTexts? data = some ss) :
    ∃ count, wordAt? data 0 = some count ∧ 32 * count ≤ (data.drop 32).length := by
  unfold readTexts? at h
  obtain ⟨count, head, h⟩ := Option.bind_eq_some_iff.mp h
  refine ⟨count, head, ?_⟩
  dsimp only at h
  split at h
  · assumption
  · cases h

theorem readTexts?_reads {ss : List String} (fits : (textsBody ss).length < Nat.pow 2 256) :
    Reads readTexts? (textsBody ss) ss := by
  have size : (textsBody ss).length = 32 + (encode (ss.map .text)).length := by
    simp [textsBody]
  have longer : 32 * ss.length ≤ (encode (ss.map .text)).length := by
    simp [length_encode]
  have legible : ∀ v ∈ ss.map Value.text, v.Legible := by
    intro v among
    obtain ⟨s, -, rfl⟩ := List.mem_map.mp among
    exact Value.legible_text s
  have items := decode_reads_of legible (by omega)
  have types : (ss.map Value.text).map Value.ty = List.replicate ss.length .text := by
    rw [List.map_map, List.eq_replicate_iff]
    simp [Value.ty]
  rw [types] at items
  have head (rest : Bytes) : wordAt? (textsBody ss ++ rest) 0 = some ss.length :=
    wordAt?_of_holds (Holds.of_append (textsBody ss) rest).left (by omega)
  have after (rest : Bytes) : (textsBody ss ++ rest).drop 32 = encode (ss.map .text) ++ rest := by
    rw [textsBody, List.append_assoc, List.drop_left' (length_word _)]
  refine ⟨?_, ?_⟩
  · intro rest
    have room : 32 * ss.length ≤ ((textsBody ss ++ rest).drop 32).length := by
      rw [after, List.length_append]
      omega
    have read := readTexts?_eq (head rest) room
    rw [after, items.whole] at read
    obtain ⟨found, read, same⟩ := Option.map_eq_some_iff.mp read
    rw [read, (List.map_inj_right fun _ _ => Value.text.inj).mp same]
  · intro rest n found read
    obtain ⟨count, start, room⟩ := readTexts?_room read
    have same := readTexts?_eq start room
    obtain ⟨short, start⟩ := wordAt?_take start
    rw [head] at start
    cases start
    rw [read, List.drop_take, after, Option.map_some] at same
    have needed := items.needs same.symm
    omega

namespace Value

theorem legible_texts (ss : List String) : (Value.texts ss).Legible := by
  refine legible_apart (f := .texts) (part_texts ss) rfl readTexts?_reads ?_
  intro data offset
  simp only [ty, readValue?]
  cases bodyAt? data offset with
  | none => rfl
  | some body => cases read : readTexts? body <;> simp [read]

/-- Values of every type are read back. -/
theorem legible (v : Value) : v.Legible := by
  cases v with
  | address a =>
    have small : a.value.toNat < Nat.pow 2 256 := Nat.lt_of_lt_of_le a.value.isLt (by decide)
    exact legible_inline (f := fun n => .address ⟨BitVec.ofNat 160 n⟩) small rfl (by simp)
      fun _ _ => rfl
  | uint256 n =>
    exact legible_inline (f := fun n => .uint256 (BitVec.ofNat 256 n)) n.isLt rfl (by simp)
      fun _ _ => rfl
  | uint8 n =>
    have small : n.toNat < Nat.pow 2 256 := Nat.lt_of_lt_of_le n.toNat_lt (by decide)
    exact legible_inline (f := fun n => .uint8 (UInt8.ofNat n)) small rfl (by simp)
      fun _ _ => rfl
  | text s => exact legible_text s
  | texts ss => exact legible_texts ss

end Value

section

variable {values : List Value}

/-- Values are read from their encoding, whatever follows it, and from nothing shorter. -/
theorem decode_reads (fits : (encode values).length < Nat.pow 2 256) :
    Reads (decode (values.map Value.ty)) (encode values) values :=
  decode_reads_of (fun v _ => v.legible) fits

def encodeStructure (values : List Value) : Bytes :=
  layout [.apart (encode values)]

/-- The fields of a structure are read from where its only word leads. -/
theorem decodeStructure_reads (fits : (encode values).length < Nat.pow 2 256) :
    Reads (decodeStructure (values.map Value.ty)) (encodeStructure values) values := by
  have fields := decode_reads fits
  have shape : encodeStructure values = word 32 ++ encode values := by
    simp [encodeStructure, layout, heads, bodies]
  have head (rest : Bytes) : Holds (encodeStructure values ++ rest) 0 (word 32) := by
    rw [shape]
    exact (Holds.of_append _ rest).left
  have there (rest : Bytes) : Holds (encodeStructure values ++ rest) 32 (encode values) := by
    rw [shape]
    have h := (Holds.of_append (word 32 ++ encode values) rest).right
    rwa [length_word] at h
  have small : 32 < Nat.pow 2 256 := by decide
  have reader (data : Bytes) : decodeStructure (values.map Value.ty) data =
      (bodyAt? data 0).bind (decode (values.map Value.ty)) := rfl
  refine ⟨?_, ?_⟩
  · intro rest
    rw [reader]
    exact fields.at_offset (head rest) (there rest) small
  · intro rest n found read
    rw [reader] at read
    have needed := fields.needs_at_offset (head rest) (there rest) small read
    rw [shape, List.length_append, length_word]
    omega

end

end ProviderWallet.Abi
