import Mathlib.Data.List.Forall2
import ProviderWallet.Hub.Lookup
import ProviderWallet.Operator
import ProviderWallet.Proofs.AmountText
import ProviderWallet.Proofs.RecordName
import ProviderWallet.Proofs.Trace
import ProviderWallet.Table

namespace ProviderWallet

open Workflow

namespace Text

def lines (cs : List Char) : List (List Char) :=
  cs.splitOn '\n'

variable {cs first rest : List Char}

theorem lines_unbroken (unbroken : '\n' ∉ cs) : lines cs = [cs] :=
  List.splitOn_eq_singleton unbroken

theorem lines_cons (c : Char) (cs : List Char) :
    lines (c :: cs) = if c = '\n' then [] :: lines cs else (lines cs).modifyHead (c :: ·) := by
  rw [lines, List.splitOn, List.splitOnP_cons_eq_if_modifyHead]
  simp only [beq_iff_eq]
  rfl

/-- A text has one more line than line breaks. -/
theorem length_lines (cs : List Char) : (lines cs).length = cs.count '\n' + 1 := by
  induction cs with
  | nil => rfl
  | cons c cs ih =>
    rw [lines_cons, List.count_cons]
    split
    · rename_i same
      simp [same, ih]
    · rename_i other
      simp [other, ih]

/-- A text without breaks stands at the beginning of the first line. -/
theorem lines_begin (unbroken : '\n' ∉ first) (rest : List Char) :
    ∃ line others, lines (first ++ rest) = line :: others ∧ first <+: line := by
  induction first with
  | nil =>
    obtain ⟨line, others, split⟩ :=
      List.exists_cons_of_ne_nil (List.ne_nil_of_length_pos (by rw [length_lines]; omega :
        0 < (lines rest).length))
    exact ⟨line, others, split, List.nil_prefix⟩
  | cons c first ih =>
    rw [List.mem_cons, not_or] at unbroken
    obtain ⟨line, others, split, start⟩ := ih unbroken.2
    refine ⟨c :: line, others, ?_, List.prefix_cons_inj c |>.mpr start⟩
    rw [List.cons_append, lines_cons, if_neg (Ne.symm unbroken.1), split, List.modifyHead_cons]

theorem lines_intercalate {ls : List (List Char)} (nonempty : ls ≠ []) :
    lines (['\n'].intercalate ls) = ls.flatMap lines := by
  induction ls with
  | nil => exact absurd rfl nonempty
  | cons l ls ih =>
    cases ls with
    | nil => simp
    | cons l' ls =>
      have joined : lines (l ++ '\n' :: ['\n'].intercalate (l' :: ls)) =
          lines l ++ lines (['\n'].intercalate (l' :: ls)) :=
        List.splitOnP_append_cons _ _ rfl
      rw [List.intercalate_cons_cons, List.append_assoc, List.singleton_append, joined,
        ih (by simp)]
      rfl

namespace Blank

theorem count_trimEnd {front : List Char} (unbroken : '\n' ∉ front) (back : List Char) :
    (trimEnd (front ++ back)).count '\n' = (trimEnd back).count '\n' := by
  rw [trimEnd_append]
  split
  · rename_i blank
    rw [blank, List.count_nil, List.count_eq_zero]
    exact fun among => unbroken ((trimEnd_begins front).mem among)
  · rw [List.count_append, List.count_eq_zero.mpr unbroken, Nat.zero_add]

/-- What has no blanks stays when blanks behind it go. -/
theorem prefix_trimEnd {first : List Char} (shown : ∀ c ∈ first, isBlank c = false)
    (rest : List Char) : first <+: trimEnd (first ++ rest) := by
  rw [trimEnd_append, trimEnd_eq shown]
  split
  · exact List.prefix_rfl
  · exact List.prefix_append ..

end Blank

end Text

namespace Row

/-- How often a line ends in what a row tells of failures. Blanks at the end are not shown. -/
def breaks (row : Row) : Nat :=
  (Text.Blank.trimEnd (row.error.getD "").toList).count '\n'

/-- Lines that a row takes: the first one begins with its address. -/
def Takes (row : Row) (lines : List (List Char)) : Prop :=
  lines.length = row.breaks + 1 ∧
    ∃ line others, lines = line :: others ∧ row.address.toList <+: line

end Row

namespace Table

open Text

variable {ws : List Nat} {cells : List (List Char)}

theorem joinCells_first (ws : List Nat) (cell : List Char) (cells : List (List Char)) :
    ∃ rest, joinCells ws (cell :: cells) = cell ++ rest := by
  cases cells with
  | nil => exact ⟨[], (List.append_nil cell).symm⟩
  | cons => exact ⟨_, by rw [joinCells, pad, List.append_assoc, List.append_assoc]; simp⟩

/-- Before the last cell stand the others, and blanks. -/
theorem joinCells_last (ws : List Nat) (cells : List (List Char)) (last : List Char) :
    ∃ front, joinCells ws (cells ++ [last]) = front ++ last ∧
      ∀ c ∈ front, c = ' ' ∨ ∃ cell ∈ cells, c ∈ cell := by
  induction cells generalizing ws with
  | nil => exact ⟨[], rfl, by simp⟩
  | cons cell cells ih =>
    obtain ⟨front, joined, inside⟩ := ih ws.tail
    refine ⟨pad (ws.headD 0) cell ++ [' ', ' '] ++ front, ?_, ?_⟩
    · rw [List.cons_append, joinCells, joined, List.append_assoc _ front]
      simp
    · intro c among
      simp only [pad, List.mem_append, List.mem_replicate, List.mem_cons, List.not_mem_nil,
        or_false, or_self] at among
      rcases among with ((among | ⟨-, rfl⟩) | rfl) | among
      · exact .inr ⟨cell, List.mem_cons_self, among⟩
      · exact .inl rfl
      · exact .inl rfl
      · rcases inside c among with rfl | ⟨other, there, among⟩
        · exact .inl rfl
        · exact .inr ⟨other, List.mem_cons_of_mem _ there, among⟩

/-- A line begins with its first cell, and its last cell alone can break it. -/
theorem line_breaks (ws : List Nat) {first : String} {middle : List String} (last : String)
    (shown : ∀ c ∈ first.toList, Blank.isBlank c = false)
    (unbroken : ∀ cell ∈ middle, '\n' ∉ cell.toList) :
    (line ws (first :: middle ++ [last])).toList.count '\n' =
        (Blank.trimEnd last.toList).count '\n' ∧
      first.toList <+: (line ws (first :: middle ++ [last])).toList := by
  rw [line, String.toList_ofList]
  constructor
  · obtain ⟨front, joined, inside⟩ :=
      joinCells_last ws ((first :: middle).map String.toList) last.toList
    have in_front : '\n' ∉ front := by
      intro among
      rcases inside _ among with same | ⟨text, there, among⟩
      · cases same
      · obtain ⟨cell, listed, rfl⟩ := List.mem_map.mp there
        rcases List.mem_cons.mp listed with rfl | listed
        · cases shown _ among
        · exact unbroken cell listed among
    rw [List.map_append, List.map_singleton, joined, Blank.count_trimEnd in_front]
  · obtain ⟨rest, joined⟩ :=
      joinCells_first ws first.toList ((middle ++ [last]).map String.toList)
    rw [List.cons_append, List.map_cons, joined]
    exact Blank.prefix_trimEnd shown rest

def cellsOf (middle : Row → List String) (row : Row) : List String :=
  row.address :: middle row ++ [row.error.getD ""]

/-- Where nothing else has a line break, a row takes as many more lines as its failures have. -/
theorem takes_line {middle : Row → List String} {row : Row}
    (named : ∃ account : Address, row.address = account.text)
    (unbroken : ∀ cell ∈ middle row, '\n' ∉ cell.toList) (ws : List Nat) :
    row.Takes (Text.lines (line ws (cellsOf middle row)).toList) := by
  obtain ⟨account, named⟩ := named
  have shown : ∀ c ∈ row.address.toList, Blank.isBlank c = false := by
    rw [named, account.toList_text]
    exact Address.not_blank_mixCase _ account
  obtain ⟨count, rest, start⟩ := line_breaks ws (row.error.getD "") shown unbroken
  constructor
  · rw [Text.length_lines, cellsOf, count]
    rfl
  · rw [cellsOf, ← start]
    exact Text.lines_begin (fun among => nomatch shown _ among) rest

def RowByRow (rows : List Row) (table : String) : Prop :=
  ∃ titles blocks, Text.lines table.toList = titles :: blocks.flatten ∧
    "Address".toList <+: titles ∧ List.Forall₂ Row.Takes rows blocks

/-- A table has a line of titles, and then one line for each row that begins with its address. -/
def OneLineEach (rows : List Row) (table : String) : Prop :=
  ∃ titles lines, Text.lines table.toList = titles :: lines ∧
    "Address".toList <+: titles ∧
    List.Forall₂ (fun row line => row.address.toList <+: line) rows lines

/-- In a table whose cells do not break, each row takes its lines in turn. -/
theorem rowByRow {titles : List String} {middle : Row → List String} {rows : List Row}
    (plain : ∀ title ∈ titles, '\n' ∉ title.toList)
    (named : ∀ row ∈ rows, ∃ account : Address, row.address = account.text)
    (unbroken : ∀ row ∈ rows, ∀ cell ∈ middle row, '\n' ∉ cell.toList) :
    RowByRow rows (render ("Address" :: titles ++ ["Error"]) (rows.map (cellsOf middle))) := by
  rw [render, lines]
  generalize widths _ _ = ws
  have shown : ∀ c ∈ "Address".toList, Blank.isBlank c = false := by
    have all : "Address".toList.all (fun c => !Blank.isBlank c) = true := by decide
    exact fun c among => by simpa using List.all_eq_true.mp all c among
  obtain ⟨count, start⟩ := line_breaks ws "Error" shown plain
  have one : Text.lines (line ws ("Address" :: titles ++ ["Error"])).toList =
      [(line ws ("Address" :: titles ++ ["Error"])).toList] :=
    Text.lines_unbroken (List.count_eq_zero.mp (count.trans (by decide)))
  refine ⟨_, rows.map fun row => Text.lines (line ws (cellsOf middle row)).toList, ?_, start, ?_⟩
  · have mark : "\n".toList = ['\n'] := by decide
    rw [String.toList_intercalate, mark, Text.lines_intercalate (by simp), List.map_cons,
      List.map_cons, List.flatMap_cons, one, List.singleton_append, List.map_map, List.map_map]
    simp only [List.flatMap_def, Function.comp_def, List.map_map]
  · rw [List.forall₂_map_right_iff, List.forall₂_same]
    exact fun row among => takes_line (named row among) (unbroken row among) ws

theorem length_blocks {rows : List Row} {blocks : List (List (List Char))}
    (taken : List.Forall₂ Row.Takes rows blocks) :
    blocks.flatten.length = rows.length + (rows.map Row.breaks).sum := by
  induction taken with
  | nil => rfl
  | cons first _ ih =>
    obtain ⟨size, -⟩ := first
    simp only [List.flatten_cons, List.length_append, List.length_cons, List.map_cons,
      List.sum_cons, ih, size]
    omega

theorem blocks_unbroken {rows : List Row} {blocks : List (List (List Char))}
    (taken : List.Forall₂ Row.Takes rows blocks) (unbroken : ∀ row ∈ rows, row.breaks = 0) :
    List.Forall₂ (fun row line => row.address.toList <+: line) rows blocks.flatten := by
  induction taken with
  | nil => exact .nil
  | cons first _ ih =>
    obtain ⟨size, line, others, rfl, start⟩ := first
    obtain ⟨none, later⟩ := List.forall_mem_cons.mp unbroken
    have alone : others = [] := by
      rw [none, List.length_cons] at size
      exact List.eq_nil_of_length_eq_zero (by omega)
    rw [alone, List.flatten_cons, List.singleton_append]
    exact .cons start (ih later)

/-- There is one line for each row exactly if no row tells of a failure with a line break. -/
theorem RowByRow.oneLineEach_iff {rows : List Row} {table : String} (h : RowByRow rows table) :
    OneLineEach rows table ↔ ∀ row ∈ rows, row.breaks = 0 := by
  obtain ⟨titles, blocks, split, address, taken⟩ := h
  constructor
  · rintro ⟨titles', lines, split', -, each⟩
    have same := split.symm.trans split'
    rw [List.cons.injEq] at same
    have size := length_blocks taken
    rw [same.2, ← each.length_eq] at size
    intro row among
    have none : (rows.map Row.breaks).sum = 0 := by omega
    exact List.sum_eq_zero_iff.mp none _ (List.mem_map_of_mem among)
  · intro unbroken
    exact ⟨titles, blocks.flatten, split, address, blocks_unbroken taken unbroken⟩

end Table

namespace Workflow

variable {α β : Type}

def Results (w : Workflow α) (post : α → Prop) : Prop :=
  w.Yields fun _ a => post a

theorem results_any (w : Workflow α) : w.Results fun _ => True :=
  fun _ _ => trivial

theorem Results.bind {post : α → Prop} {post' : β → Prop} {w : Workflow α} {f : α → Workflow β}
    (h : w.Results post) (rest : ∀ a, post a → (f a).Results post') : (w.bind f).Results post' :=
  Yields.bind h fun _ a holds => rest a holds

theorem results_mapM {post : β → Prop} {f : α → Workflow β} (h : ∀ a, (f a).Results post)
    (as : List α) : (as.mapM f).Results fun bs => ∀ b ∈ bs, post b := by
  induction as with
  | nil => exact yields_done (by simp)
  | cons a as ih =>
    rw [List.mapM_cons]
    refine (h a).bind fun b first => ih.bind fun bs later => yields_done ?_
    exact List.forall_mem_cons.mpr ⟨first, later⟩

end Workflow

def Unbroken (result : Except Failure String) : Prop :=
  ∀ text, result = .ok text → '\n' ∉ text.toList

theorem Amount.format_unbroken (w : Wei) : '\n' ∉ (format w).toList := by
  obtain ⟨frac, numeral, -⟩ := format_numeral w
  exact fun among => nomatch numeral.not_blank _ among

theorem Amount.unbroken_map (result : Except Failure Wei) : Unbroken (result.map format) := by
  cases result with
  | error f => exact fun _ same => nomatch same
  | ok w =>
    rintro _ ⟨⟩
    exact format_unbroken w

/-- What the hub answers is shown as an amount, so that there is no line break in it. -/
theorem Hub.unbroken_answer (answer : Hub.Answer) : Unbroken (escrowOfAnswer answer) := by
  rcases answer with reason | ⟨status, body⟩
  · exact fun _ same => nomatch same
  · rw [escrowOfAnswer]
    split
    · rw [escrowOfBody]
      split
      · exact fun _ same => nomatch same
      · exact Amount.unbroken_map _
    · exact fun _ same => nomatch same

theorem Hub.escrow_unbroken (endpoint : Hub.Endpoint) (account : Address) :
    (Hub.escrow endpoint account).Results Unbroken := by
  rw [Hub.escrow]
  split
  · exact yields_done fun _ same => nomatch same
  · exact yields_request fun answer => yields_done (Hub.unbroken_answer answer)

theorem held_unbroken (contract account : Address) :
    (Contract.TokenCollateral.askBalance contract account).Results Unbroken := by
  simp only [Contract.TokenCollateral.askBalance, bind_eq, pure_eq]
  exact (results_any _).bind fun held _ => yields_done (Amount.unbroken_map held)

theorem holding_unbroken (contract provider : Address) :
    (Contract.NativeCollateral.askHolding contract provider).Results fun result =>
      ∀ holding, result = .ok holding →
        '\n' ∉ holding.balance.toList ∧ '\n' ∉ holding.frozen.toList := by
  simp only [Contract.NativeCollateral.askHolding, bind_eq, pure_eq]
  refine (results_any _).bind fun info _ => yields_done ?_
  cases info with
  | error f => exact fun _ same => nomatch same
  | ok info =>
    intro holding same
    obtain rfl := Except.ok.inj same
    exact ⟨Amount.format_unbroken _, Amount.format_unbroken _⟩

namespace Row

structure Tidy (row : Row) : Prop where
  address : ∃ account : Address, row.address = account.text
  balance : '\n' ∉ row.balance.toList
  collateral : '\n' ∉ (row.collateral.getD "").toList
  frozen : '\n' ∉ (row.frozen.getD "").toList

namespace Tidy

variable {row : Row}

theorem withResult {α : Type} {set : Row → α → Row} {result : Except Failure α} (tidy : row.Tidy)
    (keeps : ∀ a, result = .ok a → (set row a).Tidy) : (row.withResult set result).Tidy := by
  cases result with
  | ok a => exact keeps a rfl
  | error f => exact ⟨tidy.address, tidy.balance, tidy.collateral, tidy.frozen⟩

theorem balance_found (account : Address) (result : Except Failure Wei) :
    ((blank account).withResult Operator.setBalance result).Tidy := by
  have empty : '\n' ∉ "".toList := by decide
  have tidy : (blank account).Tidy := ⟨⟨account, rfl⟩, empty, empty, empty⟩
  exact tidy.withResult fun amount _ =>
    ⟨tidy.address, Amount.format_unbroken amount, tidy.collateral, tidy.frozen⟩

end Tidy

/-- Nothing that is found out for a row of balances has a line break. -/
theorem balanceRow_tidy (token : Option Address) (account : Address) :
    (Operator.balanceRow token account).Results Tidy := by
  have row (balance : Except Failure Wei) (nonce : Except Failure UInt64) :
      (((blank account).withResult Operator.setBalance balance).withResult
        (fun row n => { row with nonce := some n }) nonce).Tidy := by
    have tidy := Tidy.balance_found account balance
    exact tidy.withResult fun _ _ => ⟨tidy.address, tidy.balance, tidy.collateral, tidy.frozen⟩
  simp only [Operator.balanceRow, bind_eq, pure_eq]
  cases token <;>
    exact (results_any _).bind fun balance _ => (results_any _).bind fun nonce _ =>
      yields_done (row balance nonce)

theorem collateralRow_tidy (target : Collateral.Target) (endpoint : Hub.Endpoint)
    (account : Address) :
    (Operator.collateralRow target (Hub.escrow endpoint) account).Results Tidy := by
  simp only [Operator.collateralRow, bind_eq, pure_eq]
  refine (results_any _).bind fun balance _ => ?_
  have tidy := Tidy.balance_found account balance
  cases target with
  | token collateral token =>
    refine (held_unbroken collateral account).bind fun held unbroken => ?_
    refine (Hub.escrow_unbroken endpoint account).bind fun amount unbroken' => yields_done ?_
    have tidy : Tidy (Row.withResult _ (fun row text => { row with collateral := some text })
        held) :=
      tidy.withResult fun text found =>
        ⟨tidy.address, tidy.balance, unbroken text found, tidy.frozen⟩
    exact tidy.withResult fun text found =>
      ⟨tidy.address, tidy.balance, tidy.collateral, unbroken' text found⟩
  | native collateral provider =>
    refine (holding_unbroken collateral provider).bind fun holding unbroken => yields_done ?_
    exact tidy.withResult fun h found =>
      ⟨tidy.address, tidy.balance, (unbroken h found).1, (unbroken h found).2⟩

end Row

theorem Operator.rows_results {op : Operator} {row : Address → Workflow Row} {post : Row → Prop}
    (h : ∀ account, (row account).Results post) :
    (op.rows row).Results fun result => ∀ rows, result = .ok rows → ∀ row ∈ rows, post row := by
  rw [Operator.rows]
  split
  · exact yields_done fun _ same => nomatch same
  · refine (results_mapM h _).bind fun rows each => yields_done ?_
    rintro _ ⟨⟩
    exact each

namespace Table

/-- How a listing is shown, whatever the node and the hub answer. Its table is made of the lines
that the rows take, and there is one line for each row exactly if no line ends in what a row tells
of failures. -/
structure Shows (listing : Workflow (Except Failure (List Row))) (table : List Row → String) :
    Prop where
  row_by_row (outside : Outside) (rows : List Row)
    (listed : (listing.play outside).1 = .ok rows) : RowByRow rows (table rows)
  one_line_each (outside : Outside) (rows : List Row)
    (listed : (listing.play outside).1 = .ok rows) :
    OneLineEach rows (table rows) ↔ ∀ row ∈ rows, row.breaks = 0

/-- A listing of tidy rows is shown row by row. -/
theorem Shows.of_tidy {listing : Workflow (Except Failure (List Row))}
    {table : List Row → String}
    (tidy : listing.Results fun result => ∀ rows, result = .ok rows → ∀ row ∈ rows, row.Tidy)
    (by_row : ∀ rows, (∀ row ∈ rows, row.Tidy) → RowByRow rows (table rows)) :
    Shows listing table where
  row_by_row outside rows listed := by_row rows (tidy outside [] rows listed)
  one_line_each outside rows listed := (by_row rows (tidy outside [] rows listed)).oneLineEach_iff

def balanceCells (row : Row) : List String :=
  [row.balance, (row.nonce.map fun n => Decimal.text n.toNat).getD ""]

def collateralCells (row : Row) : List String :=
  [row.balance, row.collateral.getD "", row.frozen.getD ""]

theorem ofWallets_rowByRow {rows : List Row} (tidy : ∀ row ∈ rows, row.Tidy) :
    RowByRow rows (ofWallets rows) := by
  have titles : ∀ title ∈ ["Balance", "Nonce"], '\n' ∉ title.toList := by decide
  change RowByRow rows (render ("Address" :: ["Balance", "Nonce"] ++ ["Error"])
    (rows.map (cellsOf balanceCells)))
  refine rowByRow titles (fun row among => (tidy row among).address) fun row among => ?_
  rw [balanceCells, List.forall_mem_cons, List.forall_mem_singleton]
  refine ⟨(tidy row among).balance, ?_⟩
  cases row.nonce with
  | none => decide
  | some n =>
    rw [Option.map_some, Option.getD_some, Decimal.text, String.toList_ofList]
    exact fun among => nomatch (Decimal.allDigits_digits n.toNat).not_blank _ among

theorem ofCollateral_rowByRow {rows : List Row} (tidy : ∀ row ∈ rows, row.Tidy) :
    RowByRow rows (ofCollateral rows) := by
  have titles : ∀ title ∈ ["Balance", "Collateral", "Escrow"], '\n' ∉ title.toList := by decide
  change RowByRow rows (render ("Address" :: ["Balance", "Collateral", "Escrow"] ++ ["Error"])
    (rows.map (cellsOf collateralCells)))
  refine rowByRow titles (fun row among => (tidy row among).address) fun row among => ?_
  obtain ⟨-, balance, collateral, frozen⟩ := tidy row among
  rw [collateralCells, List.forall_mem_cons, List.forall_mem_cons, List.forall_mem_singleton]
  exact ⟨balance, collateral, frozen⟩

/-- In every listing of a wallet the rows follow each other, each from the beginning of a line, and
a row takes more than one line exactly if what failed is told with line breaks. -/
theorem failures_break_lines {σ : Type} (store : Keystore σ) (w : Wallet σ) (waiter : Waiter)
    (timeLimit : Millis) (endpoint : Hub.Endpoint) :
    let op := Operator.ofWallet store w waiter timeLimit
    (∀ token, Shows (op.listBalances token) ofWallets) ∧
      ∀ target, Shows (op.listCollateral target (Hub.escrow endpoint)) ofCollateral := by
  intro op
  constructor
  · intro token
    exact .of_tidy (Operator.rows_results (Row.balanceRow_tidy token))
      fun rows => ofWallets_rowByRow
  · intro target
    exact .of_tidy (Operator.rows_results (Row.collateralRow_tidy target endpoint))
      fun rows => ofCollateral_rowByRow

def gatewayPage : Outside := fun _ q =>
  match q with
  | .ask _ => .error "HTTP error 502 with body: <html>\n</html>"
  | .askUntil _ _ => none
  | .fetch _ => .error "timed out"
  | .clock => (0 : Nat)
  | .sleep _ | .enter _ | .leave _ => ()

theorem gateway_page_on_lines :
    let account : Address := ⟨1⟩
    let wallet := Wallet.ofRecords [(account.recordName, ⟨"a key"⟩)]
    let op := Operator.ofWallet Keystore.memory wallet ⟨3000, 180000⟩ 60000
    ∃ rows, ((op.listBalances none).play gatewayPage).1 = .ok rows ∧ rows.length = 1 ∧
      (Text.lines (ofWallets rows).toList).length = 4 ∧ ¬ OneLineEach rows (ofWallets rows) := by
  intro account wallet op
  let told := "chain connection error: HTTP error 502 with body: <html>\n</html>"
  let row : Row := ⟨account.text, "", none, none, none, some (told ++ "; " ++ told)⟩
  have stored : op.accounts = .ok [account] := by
    change (Keystore.memory.list _).map (·.filterMap Address.ofRecordName?) = _
    simp [Keystore.memory, wallet, Wallet.ofRecords, Keystore.sortNames, Except.map,
      Address.ofRecordName?_recordName]
  have listed : ((op.listBalances none).play gatewayPage).1 = .ok [row] := by
    rw [Operator.listBalances, Operator.rows, stored]
    rfl
  have breaks : row.breaks = 2 := by decide +kernel
  have by_row : RowByRow [row] (ofWallets [row]) := by
    refine ofWallets_rowByRow fun r among => ?_
    obtain rfl := List.mem_singleton.mp among
    exact ⟨⟨account, rfl⟩, by decide, by decide, by decide⟩
  refine ⟨[row], listed, rfl, ?_, ?_⟩
  · obtain ⟨titles, blocks, split, -, taken⟩ := by_row
    rw [split, List.length_cons, length_blocks taken]
    simp [breaks]
  · rw [by_row.oneLineEach_iff]
    simp [breaks]

end Table

end ProviderWallet
