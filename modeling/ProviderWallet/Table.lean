import ProviderWallet.Row
import ProviderWallet.Text.Blank

namespace ProviderWallet.Table

def width (rows : List (List String)) (column : Nat) : Nat :=
  (rows.map fun cells => (cells.getD column "").utf8ByteSize).foldl max 0

def widths (headers : List String) (rows : List (List String)) : List Nat :=
  (List.range headers.length).map (width (headers :: rows))

/-- A cell filled up with blanks to as many characters as the column is wide. -/
def pad (width : Nat) (cell : List Char) : List Char :=
  cell ++ List.replicate (width - cell.length) ' '

def joinCells : List Nat → List (List Char) → List Char
  | _, [] => []
  | _, [cell] => cell
  | widths, cell :: cells =>
    pad (widths.headD 0) cell ++ [' ', ' '] ++ joinCells widths.tail cells

def line (widths : List Nat) (cells : List String) : String :=
  String.ofList (Text.Blank.trimEnd (joinCells widths (cells.map String.toList)))

def lines (headers : List String) (rows : List (List String)) : List String :=
  (headers :: rows).map (line (widths headers rows))

def render (headers : List String) (rows : List (List String)) : String :=
  String.intercalate "\n" (lines headers rows)

def ofWallets (rows : List Row) : String :=
  render ["Address", "Balance", "Nonce", "Error"] (rows.map fun row =>
    [row.address, row.balance, (row.nonce.map fun n => Decimal.text n.toNat).getD "",
     row.error.getD ""])

def ofCollateral (rows : List Row) : String :=
  render ["Address", "Balance", "Collateral", "Escrow", "Error"] (rows.map fun row =>
    [row.address, row.balance, row.collateral.getD "", row.frozen.getD "", row.error.getD ""])

end ProviderWallet.Table
