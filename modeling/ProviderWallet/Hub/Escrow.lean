import ProviderWallet.Address
import ProviderWallet.Amount
import ProviderWallet.Json.Fields
import ProviderWallet.Json.Writer

namespace ProviderWallet.Hub

open Text
open Text.Quoted (quote)

structure Report where
  escrow : Option Json
  message : String

/-- The escrow in the data of a report; it may be missing from an object. -/
def readData? (data : Json.Part) : Option (Option Json) := do
  let fields ← data.fieldsOf? ["Frozen_Collateral"]
  match fields.lookup "Frozen_Collateral" with
  | none => if data.isArray then none else some none
  | some .null => some none
  | some part => (part.value (Json.maxDepth - 2)).map some

def readReport? (body : String) : Option Report := do
  let top ← Json.readParts body.toList
  let fields ← top.fieldsOf? ["data", "message"]
  let escrow ← match fields.lookup "data" with
    | none => if top.isArray then none else some none
    | some .null => some none
    | some data => readData? data
  let message ← match fields.lookup "message" with
    | none => some ""
    | some part => part.text?
  return ⟨escrow, message⟩

/-- The amount that a number stands for: an integer that is not negative, or a floating point
number with such a value below 2 ^ 128. -/
def amountOfNumber? : Json.Number → Option Wei
  | .whole n => if 0 ≤ n then some (BitVec.ofNat 256 n.toNat) else none
  | .double negative x =>
    if negative && x.mantissa ≠ 0 then none
    else do
      let n ← x.toNat?
      if n < Nat.pow 2 128 then some (BitVec.ofNat 256 n) else none

/-- The amount in escrow. A missing one is zero. -/
def Report.amount (report : Report) : Except Failure Wei :=
  match report.escrow with
  | none | some .null => .ok 0
  | some (.string s) =>
    match Quantity.read (Blank.trimText s) with
    | .ok wei => .ok wei
    | .error _ => .error (.hub ("invalid Frozen_Collateral " ++ quote s))
  | some (.number n) =>
    match amountOfNumber? n with
    | some wei => .ok wei
    | none =>
      .error (.hub ("invalid Frozen_Collateral " ++ String.ofList n.chars ++ " (" ++
        report.message ++ ")"))
  | some other => .error (.hub ("unexpected Frozen_Collateral value " ++ other.text))

def escrowOfBody (body : String) : Except Failure String :=
  match readReport? body with
  | none => .error (.hub "malformed response: no answer of the expected form")
  | some report => report.amount.map Amount.format

end ProviderWallet.Hub
