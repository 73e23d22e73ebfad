import ProviderWallet.Proofs.CallData
import ProviderWallet.Proofs.RecordName
import ProviderWallet.Proofs.SteadyAnswers

namespace ProviderWallet

open Contract Workflow

namespace Failure

def ofResult {α : Type} : Except Failure α → List Failure
  | .ok _ => []
  | .error f => [f]

def told : List Failure → Option String
  | [] => none
  | f :: fs => some (String.intercalate "; " ((f :: fs).map message))

example : told [.connection "late", .hub "down"] =
    some "chain connection error: late; hub request failed: down" := by
  decide

end Failure

namespace Row

attribute [ext] Row

variable {α : Type} {row : Row} {fs : List Failure} {set : Row → α → Row}

def shown : Except Failure Wei → String
  | .ok amount => Amount.format amount
  | .error _ => ""

end Row

namespace Contract

theorem Declaration.length_view {d : Declaration} (hd : d ∈ views) : d.selector.length = 4 := by
  have among := List.mem_map_of_mem hd (f := selector)
  rw [views_selectors] at among
  revert among
  generalize d.selector = bytes
  revert bytes
  decide

/-- The bytes that stand for the views tell them apart. -/
theorem Declaration.view_of_selector {d e : Declaration} (hd : d ∈ views) (he : e ∈ views)
    (same : d.selector = e.selector) : d = e := by
  have nodup : (views.map selector).Nodup := by
    rw [views_selectors]
    decide
  exact List.inj_on_of_nodup_map nodup hd he same

theorem Declaration.parameters_view {d : Declaration} (hd : d ∈ views) :
    d.parameters = [.address] := by
  revert d
  decide

variable {i j : Invocation}

theorem Invocation.arguments_view (hi : i.declaration ∈ Declaration.views) :
    ∃ account, i.arguments = [.address account] := by
  obtain ⟨value, one, ty⟩ := List.map_eq_singleton_iff.mp (Declaration.parameters_view hi)
  cases value with
  | address account => exact ⟨account, one⟩
  | _ => cases ty

theorem Invocation.decode_view (hi : i.declaration ∈ Declaration.views) :
    Abi.decode [.address] (Abi.encode i.arguments) = some i.arguments := by
  obtain ⟨account, one⟩ := arguments_view hi
  have fits : (Abi.encode [.address account]).length < Nat.pow 2 256 := by
    simp [Abi.length_encode, Abi.bodies, Abi.Value.part]
  have read := (Abi.decode_reads fits).whole []
  rw [List.append_nil] at read
  rw [one]
  exact read

/-- An input tells which view is called and with which address. -/
theorem Invocation.eq_of_input_eq (hi : i.declaration ∈ Declaration.views)
    (hj : j.declaration ∈ Declaration.views) (same : i.input = j.input) : i = j := by
  have sizes : i.selector.length = j.selector.length := by
    rw [selector_eq, selector_eq, Declaration.length_view hi, Declaration.length_view hj]
  obtain ⟨selectors, encoded⟩ := List.append_inj same sizes
  rw [selector_eq, selector_eq] at selectors
  have names := congrArg Declaration.name (Declaration.view_of_selector hi hj selectors)
  have read := decode_view hi
  rw [encoded, decode_view hj] at read
  cases i
  cases j
  exact congrArg₂ Invocation.mk names (Option.some.inj read).symm

theorem Token.view_balanceOf (account : Address) :
    (Token.balanceOf account).declaration ∈ Declaration.views := by
  simp [Token.balanceOf, Invocation.declaration, Declaration.views, Abi.Value.ty]

theorem TokenCollateral.view_balances (account : Address) :
    (TokenCollateral.balances account).declaration ∈ Declaration.views := by
  simp [TokenCollateral.balances, Invocation.declaration, Declaration.views, Abi.Value.ty]

theorem NativeCollateral.view_info (provider : Address) :
    (NativeCollateral.info provider).declaration ∈ Declaration.views := by
  simp [NativeCollateral.info, Invocation.declaration, Declaration.views, Abi.Value.ty]

end Contract

/-- A request is about an account: what it has, how much it has sent, or what is held for it. -/
def Request.About (endpoint : Hub.Endpoint) (account : Address) : Request → Prop
  | .ask (.balance a) | .ask (.pendingNonce a) => a = account
  | .ask (.read _ input) =>
    input = (Token.balanceOf account).input ∨ input = (TokenCollateral.balances account).input
  | .fetch page => page = endpoint.page account
  | _ => False

namespace Operator

def lookUpBalance (token : Option Address) (account : Address) : Workflow (Except Failure Wei) :=
  match token with
  | some token => Token.askBalance token account
  | none => askBalance account

variable (r : Responder) (account : Address)

/-- The native balance is what the node answers about the account, or its reason not to. -/
theorem value_askBalance : (askBalance account).value r =
    Except.mapError .connection (r (.ask (.balance account))) := rfl

/-- The nonce is what the node expects of the next transaction of the account. -/
theorem value_askNonce : (askNonce account).value r =
    Except.mapError .connection (r (.ask (.pendingNonce account))) := rfl

end Operator

namespace Row

/-- The row of an account in a listing of balances. -/
def ofBalances (token : Option Address) (r : Responder) (account : Address) : Row :=
  let balance := (Operator.lookUpBalance token account).value r
  let nonce := (Operator.askNonce account).value r
  { address := account.text
    balance := shown balance
    nonce := nonce.toOption
    collateral := none
    frozen := none
    error := Failure.told (Failure.ofResult balance ++ Failure.ofResult nonce) }

/-- The row of an account in a listing of collateral. -/
def ofCollateral (target : Collateral.Target) (endpoint : Hub.Endpoint) (r : Responder)
    (account : Address) : Row :=
  let balance := (Operator.askBalance account).value r
  match target with
  | .token collateral _ =>
    let held := (TokenCollateral.askBalance collateral account).value r
    let escrow := (Hub.escrow endpoint account).value r
    { address := account.text
      balance := shown balance
      nonce := none
      collateral := held.toOption
      frozen := escrow.toOption
      error := Failure.told
        (Failure.ofResult balance ++ Failure.ofResult held ++ Failure.ofResult escrow) }
  | .native collateral provider =>
    let holding := (NativeCollateral.askHolding collateral provider).value r
    { address := account.text
      balance := shown balance
      nonce := none
      collateral := (holding.map (·.balance)).toOption
      frozen := (holding.map (·.frozen)).toOption
      error := Failure.told (Failure.ofResult balance ++ Failure.ofResult holding) }

/-- Two answers of the node make up a row of native balances. -/
theorem ofBalances_native (r : Responder) (account : Address) :
    let balance := Except.mapError .connection (r (.ask (.balance account)))
    let nonce := Except.mapError .connection (r (.ask (.pendingNonce account)))
    ofBalances none r account = ⟨account.text, shown balance, nonce.toOption, none, none,
      Failure.told (Failure.ofResult balance ++ Failure.ofResult nonce)⟩ := by
  intro balance nonce
  rw [ofBalances, Operator.lookUpBalance, Operator.value_askBalance, Operator.value_askNonce]

end Row

/-- An address can be read in the address of its page. -/
theorem Hub.Endpoint.page_injective (endpoint : Hub.Endpoint) {account other : Address}
    (same : endpoint.page other = endpoint.page account) : other = account := by
  have texts : other.text = account.text := by
    have urls := congrArg Hub.Page.url same
    rw [Hub.Endpoint.page, Hub.Endpoint.page, Hub.addressOf, Hub.addressOf] at urls
    exact (String.append_right_inj _).mp urls
  have read := other.parse_text
  rw [texts, account.parse_text] at read
  exact (Except.ok.inj read).symm

namespace Row

inductive Asks (endpoint : Hub.Endpoint) (account : Address) : Request → Prop where
  | balance : Asks endpoint account (.ask (.balance account))
  | nonce : Asks endpoint account (.ask (.pendingNonce account))
  | tokens (contract : Address) :
    Asks endpoint account (.ask (.read contract (Token.balanceOf account).input))
  | held (contract : Address) :
    Asks endpoint account (.ask (.read contract (TokenCollateral.balances account).input))
  | holding (contract provider : Address) :
    Asks endpoint account (.ask (.read contract (NativeCollateral.info provider).input))
  | escrow : Asks endpoint account (.fetch (endpoint.page account))

variable {endpoint : Hub.Endpoint} {account other : Address} {q : Request}

theorem view_not_about {i : Invocation} (view : i.declaration ∈ Declaration.views)
    (no_tokens : i ≠ Token.balanceOf account) (no_collateral : i ≠ TokenCollateral.balances account)
    (contract : Address) : ¬ (Request.ask (.read contract i.input)).About endpoint account := by
  rintro (same | same)
  · exact no_tokens (Invocation.eq_of_input_eq view (Token.view_balanceOf _) same)
  · exact no_collateral (Invocation.eq_of_input_eq view (TokenCollateral.view_balances _) same)

/-- No request for a row is about another account. What a contract for the chain's own currency
holds is about a provider. -/
theorem Asks.apart (asks : Asks endpoint other q) (differ : other ≠ account) :
    ¬ q.About endpoint account := by
  cases asks with
  | balance => exact differ
  | nonce => exact differ
  | escrow => exact fun same => differ (endpoint.page_injective same)
  | tokens contract =>
    refine view_not_about (Token.view_balanceOf other) ?_ ?_ contract
    · simpa [Token.balanceOf] using differ
    · simp [Token.balanceOf, TokenCollateral.balances]
  | held contract =>
    refine view_not_about (TokenCollateral.view_balances other) ?_ ?_ contract
    · simp [Token.balanceOf, TokenCollateral.balances]
    · simpa [TokenCollateral.balances] using differ
  | holding contract provider =>
    refine view_not_about (NativeCollateral.view_info provider) ?_ ?_ contract
    · simp [Token.balanceOf, NativeCollateral.info]
    · simp [TokenCollateral.balances, NativeCollateral.info]

end Row

end ProviderWallet
