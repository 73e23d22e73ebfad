import ProviderWallet.Json.Reader

namespace ProviderWallet.Json.Part

/-- The fields of a record: those of an object by name, or the items of an array in the order of
the names. A name that is not known is skipped; one that comes twice is refused, and so is a
surplus item. -/
def fieldsOf? (names : List String) : Part → Option (List (String × Part))
  | .object fields => do
    let named ← fields.mapM fun (name, part) => do
      return (String.ofList (← name), part)
    let known := named.filter fun (name, _) => names.contains name
    if (known.map Prod.fst).Nodup then some known else none
  | .array items =>
    if items.length ≤ names.length then some (names.zip items) else none
  | _ => none

def isArray : Part → Bool
  | .array _ => true
  | _ => false

def text? : Part → Option String
  | .string cs => cs.map String.ofList
  | _ => none

/-- The natural number that a part stands for, if it is written as an integer. -/
def nat? : Part → Option Nat
  | .number n =>
    match n.value with
    | some (.whole i) => if 0 ≤ i then some i.toNat else none
    | _ => none
  | _ => none

end ProviderWallet.Json.Part
