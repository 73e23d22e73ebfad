import ProviderWallet.Command.Report
import ProviderWallet.Proofs.JsonRoundTrip

namespace ProviderWallet

namespace Json

def field? (name : String) : Json → Option Json
  | .object fields => fields.lookup name
  | _ => none

def orNull? {α : Type} (read? : Json → Option α) : Json → Option (Option α)
  | .null => some none
  | j => (read? j).map some

def text? : Json → Option String
  | .string s => some s
  | _ => none

def word? : Json → Option UInt64
  | .number (.whole n) =>
    if 0 ≤ n ∧ n.toNat < UInt64.size then some (UInt64.ofNat n.toNat) else none
  | _ => none

theorem word?_ofNat (n : UInt64) : word? (.ofNat n.toNat) = some n := by
  have small : n.toNat < UInt64.size := n.toNat_lt
  rw [ofNat, word?, Int.toNat_natCast, if_pos ⟨Int.natCast_nonneg _, small⟩, UInt64.ofNat_toNat]

theorem orNull?_ofOption {α : Type} {read? : Json → Option α} {f : α → Json}
    (read : ∀ a, read? (f a) = some a) (value : ∀ a, f a ≠ .null) (a : Option α) :
    orNull? read? (ofOption f a) = some a := by
  cases a with
  | none => rfl
  | some a =>
    rw [ofOption, orNull?, read]
    · rfl
    · exact value a

end Json

namespace Row

/-- Reads a row from an object. All of its fields must be there. -/
def ofJson? (j : Json) : Option Row := do
  return {
    address := ← (← j.field? "address").text?
    balance := ← (← j.field? "balance").text?
    nonce := ← (← j.field? "nonce").orNull? Json.word?
    collateral := ← (← j.field? "collateral").orNull? Json.text?
    frozen := ← (← j.field? "escrow").orNull? Json.text?
    error := ← (← j.field? "error").orNull? Json.text? }

def fields (row : Row) : List (String × Json) :=
  [("address", .string row.address), ("balance", .string row.balance),
   ("collateral", .ofOption .string row.collateral), ("error", .ofOption .string row.error),
   ("escrow", .ofOption .string row.frozen),
   ("nonce", .ofOption (fun n => .ofNat n.toNat) row.nonce)]

theorem json_eq (row : Row) : row.json = .object row.fields := by
  simp only [json, Json.sorted, List.foldl_cons, List.foldl_nil, Json.insertField, fields,
    String.reduceEq, String.reduceLT, reduceIte]

/-- The fields of a row are written in the order of their names. -/
theorem ordered (row : Row) : row.fields.Pairwise fun a b => a.1 < b.1 := by
  simp only [fields, List.pairwise_cons, List.forall_mem_cons, List.not_mem_nil, false_implies,
    implies_true, String.reduceLT, List.Pairwise.nil, and_self]

theorem plain_ofOption {α : Type} {depth : Nat} {f : α → Json}
    (plain : ∀ a, Json.Plain depth (f a)) (a : Option α) : Json.Plain depth (.ofOption f a) := by
  cases a with
  | none => exact .null depth
  | some a => exact plain a

/-- Nothing of a row is lost in writing. -/
theorem plain_json (depth : Nat) (row : Row) : Json.Plain (depth + 1) row.json := by
  have nonce (n : UInt64) : Json.Plain depth (.ofNat n.toNat) :=
    .number depth (Nat.le_sub_one_of_lt n.toNat_lt)
  rw [json_eq]
  refine .object row.ordered ?_
  simp only [fields, List.forall_mem_cons, List.not_mem_nil, false_implies, implies_true, and_true]
  exact ⟨.string depth _, .string depth _, plain_ofOption (.string depth) _,
    plain_ofOption (.string depth) _, plain_ofOption (.string depth) _, plain_ofOption nonce _⟩

/-- A row is read from its object as it was. -/
theorem ofJson?_fields (row : Row) : ofJson? (.object row.fields) = some row := by
  have text (s : Option String) : (Json.ofOption .string s).orNull? Json.text? = some s :=
    Json.orNull?_ofOption (f := .string) (fun _ => rfl) (by simp) s
  have nonce : (Json.ofOption (fun n => .ofNat n.toNat) row.nonce).orNull? Json.word? =
      some row.nonce :=
    Json.orNull?_ofOption Json.word?_ofNat (by simp [Json.ofNat]) row.nonce
  simp [ofJson?, Json.field?, fields, List.lookup_cons, Json.text?, text, nonce]

end Row

open Command

/-- A listing as JSON is one line whatever the texts in it are. It is read as an array with an
object for each row, in their order, and from those all rows are read as they were, with `null` for
what is not known. -/
theorem listings_read_back (rows : List Row) :
    let line := (Json.array (rows.map Row.json)).text
    (Report.balances rows).output true = line ++ "\n" ∧
      (Report.collateral rows).output true = line ++ "\n" ∧
      (∀ c ∈ line.toList, c ≠ '\n' ∧ c ≠ '\r') ∧
      Json.read? line = some (.array (rows.map fun row => .object row.fields)) ∧
      (rows.map fun row => Json.object row.fields).mapM Row.ofJson? = some rows := by
  intro line
  have plain : Json.Plain Json.maxDepth (.array (rows.map Row.json)) := by
    refine .array fun item among => ?_
    obtain ⟨row, -, rfl⟩ := List.mem_map.mp among
    exact row.plain_json _
  refine ⟨rfl, rfl, ?_, ?_, ?_⟩
  · intro c among
    change c ∈ (Json.text _).toList at among
    rw [Json.text, String.toList_ofList] at among
    have shown := plain.isShown c among
    constructor <;> rintro rfl <;> exact absurd shown (by decide)
  · have objects : Row.json = fun row => .object row.fields := funext Row.json_eq
    rw [Json.read?_text plain, objects]
  · have each : (Row.ofJson? ∘ fun row => .object row.fields) = fun row => some row :=
      funext Row.ofJson?_fields
    rw [List.mapM_map, each]
    exact List.mapM_pure.trans (congrArg some (List.map_id' rows))

end ProviderWallet
