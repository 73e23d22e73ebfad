import ProviderWallet.Http.Status
import ProviderWallet.Json.Reader
import ProviderWallet.Json.Writer
import ProviderWallet.Node
import ProviderWallet.Text.Hex

namespace ProviderWallet.Rpc

/-- What comes back from the node: a status and a body, or why nothing came back. -/
abbrev Reply := Except String (Nat × String)

def notDecoded : String := "deserialization error: the value does not have the expected form"

def field? (name : String) : Json → Option Json
  | .object fields => fields.lookup name
  | _ => none

def reported? (error : Json) : Option String := do
  let .number (.whole code) ← field? "code" error | none
  let .string message ← field? "message" error | none
  let data := match field? "data" error with
    | none | some .null => ""
    | some data => ", data: " ++ data.text
  return "server returned an error response: error code " ++
    String.ofList (Json.Number.chars (.whole code)) ++ ": " ++ message ++ data

def valueOfBody (body : String) : Except String Json :=
  match Json.read? body with
  | none => .error notDecoded
  | some json =>
    match field? "error" json, field? "result" json with
    | some .null, some value | none, some value => .ok value
    | some error, _ => .error ((reported? error).getD notDecoded)
    | none, none => .error notDecoded

def valueOf : Reply → Except String Json
  | .error reason => .error reason
  | .ok (status, body) =>
    if Http.isSuccess status then valueOfBody body
    else if body = "" then .error ("HTTP error " ++ Decimal.text status ++ " with empty body")
    else .error ("HTTP error " ++ Decimal.text status ++ " with body: " ++ body)

def resultOf {α : Type} (read? : Json → Option α) (reply : Reply) : Except String α :=
  match valueOf reply with
  | .error reason => .error reason
  | .ok value =>
    match read? value with
    | some a => .ok a
    | none => .error notDecoded

/-- A number below a bound: marked hexadecimal digits, decimal digits, or a JSON number. -/
def number? (bound : Nat) (json : Json) : Option Nat := do
  let n ← match json with
    | .number (.whole n) => if 0 ≤ n then some n.toNat else none
    | .string s =>
      match s.toList with
      | '0' :: 'x' :: cs =>
        if cs = [] then none
        else cs.foldlM (fun n c => (Text.Hex.charValue? c).map (16 * n + ·)) 0
      | cs => Decimal.read? cs
    | _ => none
  if n < bound then some n else none

def word64? (json : Json) : Option UInt64 :=
  (number? (Nat.pow 2 64) json).map UInt64.ofNat

def price? (json : Json) : Option Fee.Price :=
  (number? (Nat.pow 2 128) json).map (BitVec.ofNat 128)

def wei? (json : Json) : Option Wei :=
  (number? (Nat.pow 2 256) json).map (BitVec.ofNat 256)

def bytes? : Json → Option Bytes
  | .string s =>
    let cs := match s.toList with
      | '0' :: 'x' :: cs => cs
      | cs => cs
    (Text.Hex.decodeText (String.ofList cs)).toOption
  | _ => none

def fixed? (size : Nat) (json : Json) : Option Bytes := do
  let bytes ← bytes? json
  if bytes.length = size then some bytes else none

def hash? (json : Json) : Option TxHash := do
  return ⟨BitVec.ofNat 256 (Bytes.toNat (← fixed? 32 json))⟩

def has {α : Type} (json : Json) (name : String) (read? : Json → Option α) : Bool :=
  ((field? name json).bind read?).isSome

def mayHave {α : Type} (json : Json) (name : String) (read? : Json → Option α) : Bool :=
  match field? name json with
  | none | some .null => true
  | some value => (read? value).isSome

def list? : Json → Option (List Json)
  | .array items => some items
  | _ => none

/-- A receipt, or nothing. All that a receipt tells is required, though only its status is used. -/
def receipt? : Json → Option (Option Confirmation.Receipt)
  | .null => some none
  | json => do
    let status ← number? 2 (← field? "status" json)
    if has json "type" (number? 256) && has json "cumulativeGasUsed" word64? &&
        has json "gasUsed" word64? && has json "logs" list? &&
        has json "logsBloom" (fixed? 256) && has json "transactionHash" hash? &&
        has json "from" (fixed? 20) && has json "effectiveGasPrice" price? &&
        mayHave json "to" (fixed? 20) && mayHave json "contractAddress" (fixed? 20) &&
        mayHave json "blockHash" (fixed? 32) && mayHave json "blockNumber" word64? &&
        mayHave json "transactionIndex" word64? then
      return some (if status = 1 then .success else .failure)
    else none

end ProviderWallet.Rpc
