import ProviderWallet.Binary64

namespace ProviderWallet

/-- A number: an integer that fits into 64 bits, with or without a sign, or a floating point
number with its sign. -/
inductive Json.Number where
  | whole (n : Int)
  | double (negative : Bool) (x : Binary64)
  deriving DecidableEq, Repr

/-- A JSON value. The order of the fields of an object is the order in which they are written. -/
inductive Json where
  | null
  | bool (b : Bool)
  | number (n : Json.Number)
  | string (s : String)
  | array (items : List Json)
  | object (fields : List (String × Json))

namespace Json

def insertField (name : String) (value : Json) : List (String × Json) → List (String × Json)
  | [] => [(name, value)]
  | (other, old) :: fields =>
    if name = other then (name, value) :: fields
    else if name < other then (name, value) :: (other, old) :: fields
    else (other, old) :: insertField name value fields

/-- The object with the given fields sorted by name; of two of one name the later counts. -/
def sorted (fields : List (String × Json)) : Json :=
  .object (fields.foldl (fun fs (name, value) => insertField name value fs) [])

def ofNat (n : Nat) : Json :=
  .number (.whole n)

def ofOption {α : Type} (f : α → Json) : Option α → Json
  | none => .null
  | some a => f a

end Json

end ProviderWallet
