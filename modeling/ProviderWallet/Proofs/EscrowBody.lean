import ProviderWallet.Hub.Escrow
import ProviderWallet.Proofs.JsonText

namespace ProviderWallet.Hub

open Json (Numeral Part)
open Text
open Text.Quoted (quote)

def saidIn? (fields : List (String × Part)) : Option String :=
  match fields.lookup "message" with
  | none => some ""
  | some part => part.text?

/-- The body of an answer gives the amount in escrow as a part, and says something besides. -/
inductive Gives (body : String) (amount : Part) (message : String) : Prop where
  | inside {top data : Part} {fields inner : List (String × Part)}
      (read : Json.readParts body.toList = some top)
      (known : top.fieldsOf? ["data", "message"] = some fields)
      (among : fields.lookup "data" = some data)
      (known' : data.fieldsOf? ["Frozen_Collateral"] = some inner)
      (among' : inner.lookup "Frozen_Collateral" = some amount)
      (said : saidIn? fields = some message)

variable {body message : String} {amount : Part}

/-- The amount is found wherever it stands in the body, and whatever else is said there. -/
theorem readReport?_gives (gives : Gives body amount message) (given : amount ≠ .null) :
    readReport? body = (amount.value (Json.maxDepth - 2)).map fun value =>
      ⟨some value, message⟩ := by
  obtain ⟨read, known, among, known', among', said⟩ := gives
  rename_i top data fields inner
  have data_read : readData? data = (amount.value (Json.maxDepth - 2)).map some := by
    simp only [readData?, known', Option.bind_eq_bind, Option.bind_some, among']
  have data_given : data ≠ .null := by
    rintro rfl
    cases known'
  unfold readReport?
  simp only [read, known, among, Option.bind_eq_bind, Option.bind_some, data_read]
  unfold saidIn? at said
  cases besides : fields.lookup "message" with
  | none =>
    rw [besides] at said
    cases said
    cases amount.value (Json.maxDepth - 2) <;> rfl
  | some part =>
    rw [besides] at said
    simp only at said
    simp only [said]
    cases amount.value (Json.maxDepth - 2) <;> rfl

/-- A text is read as the amount that is left without the blanks around it. -/
theorem escrowOfBody_string {text : List Char} (gives : Gives body (.string (some text)) message) :
    escrowOfBody body =
      match Quantity.read (Blank.trimText (.ofList text)) with
      | .ok wei => .ok (Amount.format wei)
      | .error _ => .error (.hub ("invalid Frozen_Collateral " ++ quote (.ofList text))) := by
  have report := readReport?_gives gives (by simp)
  rw [Part.value, Option.map_some, Option.map_some] at report
  rw [escrowOfBody, report]
  simp only [Report.amount]
  cases Quantity.read (Blank.trimText (.ofList text)) <;> rfl

/-- A number is read as the amount that its value stands for. -/
theorem escrowOfBody_number {numeral : Numeral} {number : Json.Number}
    (gives : Gives body (.number numeral) message) (value : numeral.value = some number) :
    escrowOfBody body =
      match amountOfNumber? number with
      | some wei => .ok (Amount.format wei)
      | none =>
        .error (.hub ("invalid Frozen_Collateral " ++ String.ofList number.chars ++ " (" ++
          message ++ ")")) := by
  have report := readReport?_gives gives (by simp)
  rw [Part.value, value, Option.map_some, Option.map_some] at report
  rw [escrowOfBody, report]
  simp only [Report.amount]
  cases amountOfNumber? number <;> rfl

def shortBody (amount : List Char) : String :=
  .ofList (Json.oneField "data" (Json.oneField "Frozen_Collateral" amount))

def shortData (amount : Part) : Part :=
  .object [(some "Frozen_Collateral".toList, amount)]

theorem readParts_shortBody {text : List Char} (reads : ∀ depth rest, Json.Ends rest →
    Json.readPart (depth + 1) (text ++ rest) = some (amount, rest)) :
    Json.readParts (shortBody text).toList =
      some (.object [(some "data".toList, shortData amount)]) := by
  have inner (depth : Nat) (rest : List Char) (_ : Json.Ends rest) :
      Json.readPart (depth + 2 + 1) (Json.oneField "Frozen_Collateral" text ++ rest) =
        some (shortData amount, rest) :=
    Json.readPart_oneField "Frozen_Collateral" (reads depth) rest
  have outer (depth : Nat) := Json.readPart_oneField "data" (inner depth) []
  rw [List.append_nil] at outer
  rw [shortBody, String.toList_ofList, Json.readParts]
  generalize long : Json.oneField "data" _ = cs at outer ⊢
  -- two objects inside each other are longer than the depth that reading them takes
  obtain ⟨depth, deep⟩ : ∃ depth, 2 * cs.length + 2 = depth + 2 + 3 := by
    refine ⟨2 * cs.length - 3, ?_⟩
    rw [← long, Json.oneField, List.length_cons, List.length_append]
    simp
    omega
  rw [deep, outer]
  rfl

theorem shortBody_gives {text : List Char} (reads : ∀ depth rest, Json.Ends rest →
    Json.readPart (depth + 1) (text ++ rest) = some (amount, rest)) :
    Gives (shortBody text) amount "" :=
  .inside (readParts_shortBody reads) rfl rfl rfl rfl rfl

end ProviderWallet.Hub
