import Mathlib.Data.String.Basic
import Mathlib.Order.Bounds.Defs
import ProviderWallet.Proofs.TableLines

namespace ProviderWallet

theorem length_toList_le (s : String) : s.toList.length ≤ s.utf8ByteSize := by
  rw [← String.utf8Len_toList]
  generalize s.toList = cs
  induction cs with
  | nil => rfl
  | cons c cs ih => exact Nat.add_le_add ih c.utf8Size_pos

namespace Text.Blank

theorem getLast?_trimEnd {cs : List Char} {c : Char} (last : (trimEnd cs).getLast? = some c) :
    isBlank c = false := by
  obtain ⟨rest, same⟩ := List.getLast?_eq_some_iff.mp last
  have solid := List.rdropWhile_last_not isBlank cs (by change trimEnd cs ≠ []; simp [same])
  have final : (trimEnd cs).getLast (by simp [same]) = c := by simp [same]
  rw [← final, ← Bool.not_eq_true]
  exact solid

/-- What remains of the beginning of a text remains of the text. -/
theorem trimEnd_prefix_append (front back : List Char) :
    trimEnd front <+: trimEnd (front ++ back) := by
  rw [trimEnd_append]
  split
  · exact List.prefix_rfl
  · exact (trimEnd_begins front).trans (List.prefix_append ..)

theorem trimEnd_prefix_drop {part cs : List Char} {n : Nat} (there : part <+: cs.drop n) :
    trimEnd part <+: (trimEnd cs).drop n := by
  obtain ⟨rest, same⟩ := there
  have stays := trimEnd_prefix_append part rest
  rw [same] at stays
  by_cases blank : trimEnd (cs.drop n) = []
  · rw [blank, List.prefix_nil] at stays
    rw [stays]
    exact List.nil_prefix
  · have reaches : (cs.take n).length = n := by
      rw [List.length_take, Nat.min_eq_left]
      by_contra short
      rw [List.drop_eq_nil_of_le (Nat.le_of_not_le short)] at blank
      exact blank rfl
    have split := trimEnd_append (cs.take n) (cs.drop n)
    rw [List.take_append_drop, if_neg blank] at split
    rw [split, List.drop_left' reaches]
    exact stays

end Text.Blank

namespace Table

open Text

/-- The character at which a column begins, after columns of given widths with two blanks each. -/
def offset (ws : List Nat) (column : Nat) : Nat :=
  ((ws.take column).map (· + 2)).sum

theorem offset_cons (w : Nat) (ws : List Nat) (column : Nat) :
    offset (w :: ws) (column + 1) = w + 2 + offset ws column := by
  rw [offset, List.take_succ_cons, List.map_cons, List.sum_cons, offset]

/-- A text in which cells stand where their columns begin, the last one up to the end, with spaces
between them and nothing else. -/
structure LaidOut (ws : List Nat) (cells : List (List Char)) (text : List Char) : Prop where
  placed (i : Nat) (cell : List Char) (h : cells[i]? = some cell) : cell <+: text.drop (offset ws i)
  apart (i : Nat) (cell : List Char) (h : cells[i]? = some cell) (later : i + 1 < cells.length) :
    offset ws i + cell.length + 2 ≤ offset ws (i + 1)
  filled (k : Nat) (c : Char) (h : text[k]? = some c) : c = ' ' ∨
    ∃ i cell, cells[i]? = some cell ∧ offset ws i ≤ k ∧ k < offset ws i + cell.length
  ends : text.length = offset ws (cells.length - 1) + (cells.getLast?.getD []).length

namespace LaidOut

variable {ws : List Nat} {cells : List (List Char)} {text text' : List Char}

/-- Inside a cell the text is that of the cell. -/
theorem inside (h : LaidOut ws cells text) {i k : Nat} {cell : List Char}
    (there : cells[i]? = some cell) (low : offset ws i ≤ k)
    (high : k < offset ws i + cell.length) : text[k]? = cell[k - offset ws i]? := by
  obtain ⟨rest, same⟩ := h.placed i cell there
  have at_k : (text.drop (offset ws i))[k - offset ws i]? = text[k]? := by
    rw [List.getElem?_drop, Nat.add_sub_cancel' low]
  rw [← at_k, ← same, List.getElem?_append_left (by omega)]

/-- There is one way only to lay cells out. -/
theorem unique (h : LaidOut ws cells text) (h' : LaidOut ws cells text') : text = text' := by
  have length : text.length = text'.length := h.ends.trans h'.ends.symm
  apply List.ext_getElem?
  intro k
  by_cases within : ∃ i cell, cells[i]? = some cell ∧ offset ws i ≤ k ∧
      k < offset ws i + cell.length
  · obtain ⟨i, cell, there, low, high⟩ := within
    rw [h.inside there low high, h'.inside there low high]
  · by_cases short : k < text.length
    · have space (t : List Char) (laid : LaidOut ws cells t) (short : k < t.length) :
          t[k]? = some ' ' := by
        rw [List.getElem?_eq_getElem short]
        have filled := laid.filled k _ (List.getElem?_eq_getElem short)
        exact congrArg some (filled.resolve_right within)
      rw [space text h short, space text' h' (length ▸ short)]
    · rw [List.getElem?_eq_none (by omega), List.getElem?_eq_none (by omega)]

theorem nil (ws : List Nat) : LaidOut ws [] [] where
  placed _ _ h := nomatch h
  apart _ _ h := nomatch h
  filled _ _ h := nomatch h
  ends := rfl

/-- The last cell is not filled up. -/
theorem singleton (ws : List Nat) (cell : List Char) : LaidOut ws [cell] cell where
  placed i other h := by
    rw [List.getElem?_singleton] at h
    split at h
    · cases h
      rename_i first
      rw [first]
      exact List.prefix_rfl
    · cases h
  apart _ _ _ later := by simp at later
  filled k c h := by
    obtain ⟨short, -⟩ := List.getElem?_eq_some_iff.mp h
    exact .inr ⟨0, cell, rfl, Nat.zero_le k, by simpa [offset] using short⟩
  ends := by simp [offset]

theorem length_padded {w : Nat} {cell : List Char} (fits : cell.length ≤ w) :
    (pad w cell ++ [' ', ' ']).length = w + 2 := by
  simp [pad]
  omega

/-- A cell in front of others takes the width of its column and two spaces more. -/
theorem cons {w : Nat} {cell : List Char} (h : LaidOut ws cells text) (more : cells ≠ [])
    (fits : cell.length ≤ w) :
    LaidOut (w :: ws) (cell :: cells) (pad w cell ++ [' ', ' '] ++ text) := by
  have size := length_padded fits
  refine ⟨?_, ?_, ?_, ?_⟩
  · intro i other there
    cases i with
    | zero =>
      obtain rfl : cell = other := by simpa using there
      rw [pad, List.append_assoc, List.append_assoc]
      exact List.prefix_append ..
    | succ i =>
      rw [offset_cons, ← size, List.drop_length_add_append]
      exact h.placed i other there
  · intro i other there later
    cases i with
    | zero =>
      obtain rfl : cell = other := by simpa using there
      rw [offset_cons]
      simp [offset]
      omega
    | succ i =>
      have apart := h.apart i other there (by simpa using later)
      rw [offset_cons, offset_cons]
      omega
  · intro k c there
    by_cases early : k < w + 2
    · rw [List.getElem?_append_left (by omega), pad] at there
      by_cases inside : k < cell.length
      · exact .inr ⟨0, cell, rfl, Nat.zero_le k, by simpa [offset] using inside⟩
      · rw [List.append_assoc, List.getElem?_append_right (by omega)] at there
        have among := List.mem_of_getElem? there
        simp only [List.mem_append, List.mem_replicate, List.mem_cons, List.not_mem_nil, or_false,
          or_self] at among
        exact .inl (among.elim And.right id)
    · rw [List.getElem?_append_right (by omega), size] at there
      refine (h.filled _ c there).imp_right ?_
      rintro ⟨i, other, found, low, high⟩
      refine ⟨i + 1, other, found, ?_, ?_⟩ <;> rw [offset_cons] <;> omega
  · obtain ⟨first, others, rfl⟩ := List.exists_cons_of_ne_nil more
    have ends := h.ends
    rw [List.length_append, size, ends]
    simp only [List.length_cons, Nat.add_sub_cancel, offset_cons, List.getLast?_cons_cons]
    omega

end LaidOut

/-- A line is laid out before the blanks at its end are cut off, if no cell but the last is wider
than its column. -/
theorem laidOut_joinCells {ws : List Nat} {cells : List (List Char)}
    (fits : List.Forall₂ (fun w cell => cell.length ≤ w) ws cells) :
    LaidOut ws cells (joinCells ws cells) := by
  induction fits with
  | nil => exact .nil []
  | @cons w cell ws cells first _ ih =>
    cases cells with
    | nil => exact .singleton (w :: ws) cell
    | cons next cells => exact ih.cons (List.cons_ne_nil next cells) first

def sizes (table : List (List String)) (column : Nat) : Set Nat :=
  {size | ∃ cells ∈ table, ∃ cell, cells[column]? = some cell ∧ cell.utf8ByteSize = size}

/-- A column is as wide as the largest of its cells. -/
theorem width_isGreatest {table : List (List String)} {column : Nat} (some_row : table ≠ [])
    (reaches : ∀ cells ∈ table, column < cells.length) :
    IsGreatest (sizes table column) (width table column) := by
  have found (cells : List String) (among : cells ∈ table) :
      cells[column]? = some (cells.getD column "") := by
    rw [List.getD_eq_getElem?_getD, List.getElem?_eq_getElem (reaches cells among)]
    rfl
  have greatest : (table.map fun cells => (cells.getD column "").utf8ByteSize).max? =
      some (width table column) := by
    obtain ⟨cells, rest, rfl⟩ := List.exists_cons_of_ne_nil some_row
    simp only [width, List.map_cons, List.max?_cons', List.foldl_cons, Nat.zero_max]
  obtain ⟨among, above⟩ := List.max?_eq_some_iff.mp greatest
  constructor
  · obtain ⟨cells, there, size⟩ := List.mem_map.mp among
    exact ⟨cells, there, _, found cells there, size⟩
  · rintro _ ⟨cells, there, cell, at_column, rfl⟩
    rw [found cells there] at at_column
    cases at_column
    exact above _ (List.mem_map_of_mem there)

/-- A line of a table says its cells, laid out, up to white space at the end. -/
structure Aligned (ws : List Nat) (cells : List String) (line : List Char) : Prop where
  exists_layout : ∃ text, LaidOut ws (cells.map String.toList) text
  cut (text : List Char) (laid : LaidOut ws (cells.map String.toList) text) :
    ∃ blanks, text = line ++ blanks ∧ ∀ c ∈ blanks, Blank.isBlank c = true
  trimmed (c : Char) (last : line.getLast? = some c) : Blank.isBlank c = false
  columns (i : Nat) (cell : String) (h : cells[i]? = some cell) :
    Blank.trimEnd cell.toList <+: line.drop (offset ws i)

/-- A line that is laid out stays aligned without the blanks at its end. -/
theorem LaidOut.aligned {ws : List Nat} {cells : List String} {text : List Char}
    (laid : LaidOut ws (cells.map String.toList) text) :
    Aligned ws cells (Blank.trimEnd text) where
  exists_layout := ⟨text, laid⟩
  cut other laid' := by
    rw [laid'.unique laid]
    exact Blank.exists_blanks text
  trimmed c last := Blank.getLast?_trimEnd last
  columns i cell h := by
    exact Blank.trimEnd_prefix_drop (laid.placed i cell.toList (by rw [List.getElem?_map, h]; rfl))

section table

variable {headers : List String} {rows : List (List String)}

theorem length_widths : (widths headers rows).length = headers.length := by
  rw [widths, List.length_map, List.length_range]

/-- The headers count among the cells. -/
theorem widths_isGreatest (square : ∀ cells ∈ rows, cells.length = headers.length) {column w : Nat}
    (there : (widths headers rows)[column]? = some w) :
    IsGreatest (sizes (headers :: rows) column) w := by
  rw [widths, List.getElem?_map] at there
  obtain ⟨column, inside, rfl⟩ := Option.map_eq_some_iff.mp there
  obtain ⟨small, rfl⟩ := List.getElem?_eq_some_iff.mp inside
  rw [List.length_range] at small
  rw [List.getElem_range]
  apply width_isGreatest (List.cons_ne_nil headers rows)
  rw [List.forall_mem_cons]
  exact ⟨small, fun cells among => (square cells among).symm ▸ small⟩

/-- No cell has more characters than its column is wide. -/
theorem cells_fit (square : ∀ cells ∈ rows, cells.length = headers.length) {cells : List String}
    (among : cells ∈ headers :: rows) :
    List.Forall₂ (fun w cell => cell.length ≤ w) (widths headers rows)
      (cells.map String.toList) := by
  have length : cells.length = headers.length := by
    rcases List.mem_cons.mp among with rfl | among
    · rfl
    · exact square cells among
  rw [List.forall₂_map_right_iff, List.forall₂_iff_get]
  refine ⟨length_widths.trans length.symm, ?_⟩
  intro i inside inside'
  have greatest := widths_isGreatest square (List.getElem?_eq_getElem inside)
  have size := greatest.2 ⟨cells, among, _, List.getElem?_eq_getElem inside', rfl⟩
  exact (length_toList_le _).trans size

theorem line_unbroken {cells : List String} (unbroken : ∀ cell ∈ cells, '\n' ∉ cell.toList)
    (ws : List Nat) : '\n' ∉ (line ws cells).toList := by
  rw [line, String.toList_ofList]
  intro among
  have among := (Blank.trimEnd_begins _).mem among
  rcases List.eq_nil_or_concat cells with rfl | ⟨others, last, rfl⟩
  · cases among
  · obtain ⟨front, joined, inside⟩ := joinCells_last ws (others.map String.toList) last.toList
    rw [List.concat_eq_append, List.map_append, List.map_singleton, joined,
      List.mem_append] at among
    rcases among with among | among
    · rcases inside _ among with same | ⟨text, there, among⟩
      · cases same
      · obtain ⟨cell, listed, rfl⟩ := List.mem_map.mp there
        exact unbroken cell (by simp [listed]) among
    · exact unbroken last (by simp) among

/-- A table has the line of its headers and one line for each row. -/
theorem lines_render (unbroken : ∀ cells ∈ headers :: rows, ∀ cell ∈ cells, '\n' ∉ cell.toList) :
    Text.lines (render headers rows).toList =
      (headers :: rows).map fun cells => (line (widths headers rows) cells).toList := by
  have mark : "\n".toList = ['\n'] := by decide
  have single (cells : List String) (among : cells ∈ headers :: rows) :
      Text.lines (line (widths headers rows) cells).toList =
        [(line (widths headers rows) cells).toList] :=
    Text.lines_unbroken (line_unbroken (unbroken cells among) _)
  rw [render, String.toList_intercalate, mark, Text.lines_intercalate (by simp [lines]), lines,
    List.map_map, List.flatMap_map, List.map_eq_flatMap]
  exact List.flatMap_congr single

end table

/-- In every table the cells of a column begin at the same character of each line, after the columns
before it. These are as wide as the largest of their cells has bytes, which is enough for every one
of them. -/
theorem columns_line_up (headers : List String) (rows : List (List String))
    (square : ∀ cells ∈ rows, cells.length = headers.length)
    (unbroken : ∀ cells ∈ headers :: rows, ∀ cell ∈ cells, '\n' ∉ cell.toList) :
    ∃ ws : List Nat, ws.length = headers.length ∧
      (∀ column w, ws[column]? = some w → IsGreatest (sizes (headers :: rows) column) w) ∧
      List.Forall₂ (Aligned ws) (headers :: rows) (Text.lines (render headers rows).toList) := by
  refine ⟨widths headers rows, length_widths, fun _ _ => widths_isGreatest square, ?_⟩
  rw [lines_render unbroken, List.forall₂_map_right_iff, List.forall₂_same]
  intro cells among
  rw [line, String.toList_ofList]
  exact (laidOut_joinCells (cells_fit square among)).aligned

/-- Two columns of letters that take more than one byte, and a cell that is empty. -/
theorem accented_columns_line_up :
    let headers := ["Town", "Land"]
    let rows := [["Zürich", "瑞士"], ["東京都", ""]]
    (∀ cells ∈ rows, cells.length = headers.length) ∧
      (∀ cells ∈ headers :: rows, ∀ cell ∈ cells, '\n' ∉ cell.toList) ∧
      (Text.lines (render headers rows).toList).map String.ofList =
        ["Town       Land", "Zürich     瑞士", "東京都"] ∧
      ∃ ws : List Nat, ws.length = 2 ∧
        List.Forall₂ (Aligned ws) (headers :: rows) (Text.lines (render headers rows).toList) := by
  intro headers rows
  have square : ∀ cells ∈ rows, cells.length = headers.length := by decide
  have unbroken : ∀ cells ∈ headers :: rows, ∀ cell ∈ cells, '\n' ∉ cell.toList := by decide
  obtain ⟨ws, length, -, aligned⟩ := columns_line_up headers rows square unbroken
  exact ⟨square, unbroken, by decide +kernel, ws, length, aligned⟩

end Table

end ProviderWallet
