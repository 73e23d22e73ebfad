import ProviderWallet.Collateral
import ProviderWallet.Contract.Account
import ProviderWallet.Contract.NativeCollateral
import ProviderWallet.Contract.Token
import ProviderWallet.Contract.TokenCollateral
import ProviderWallet.Row
import ProviderWallet.Submission
import ProviderWallet.Waiter
import ProviderWallet.Wallet

namespace ProviderWallet

open Contract

def Contract.Invocation.ask {α : Type} (i : Invocation) (contract : Address)
    (readAnswer? : Bytes → Option α) : Workflow (Except Failure α) := do
  match ← Workflow.of (.ask (.read contract i.input)) with
  | .error reason => return .error (.reading i.signature (Failure.connection reason).message)
  | .ok data =>
    match readAnswer? data with
    | some answer => return .ok answer
    | none =>
      return .error (.reading i.signature "undecodable return data: not the results' binary form")

def Contract.Token.askBalance (token account : Address) : Workflow (Except Failure Wei) :=
  (Token.balanceOf account).ask token Token.readBalance?

def Contract.TokenCollateral.askBalance (contract account : Address) :
    Workflow (Except Failure String) := do
  return (← (TokenCollateral.balances account).ask contract
    TokenCollateral.readBalance?).map Amount.format

structure Contract.NativeCollateral.Holding where
  account : String
  balance : String
  frozen : String
  status : String
  deriving DecidableEq, Repr

def Contract.NativeCollateral.askHolding (contract account : Address) :
    Workflow (Except Failure Holding) := do
  return (← (NativeCollateral.info account).ask contract NativeCollateral.readInfo?).map fun i =>
    ⟨i.account.text, Amount.format i.balance, Amount.format i.frozen, i.status⟩

def Contract.Account.askState (contract : Address) :
    Workflow (Except Failure Account.State) :=
  Account.state.ask contract Account.readState?

/-- Who acts for the stored accounts, and how long that may take. -/
structure Operator where
  keyOf : Address → Except Failure (Option KeyText)
  accounts : Except Failure (List Address)
  waiter : Waiter
  timeLimit : Millis

namespace Operator

def ofWallet {σ : Type} (store : Keystore σ) (w : Wallet σ) (waiter : Waiter)
    (timeLimit : Millis) : Operator where
  keyOf account := (w.find store account).1
  accounts := w.list store
  waiter := waiter
  timeLimit := timeLimit

def keyFor (op : Operator) (account : Address) (task : String) : Except Failure KeyText :=
  match op.keyOf account with
  | .error f => .error f
  | .ok none => .error (.keyNotFound account.text task)
  | .ok (some key) => .ok key

def withKey {α : Type} (op : Operator) (account : Address) (task : String)
    (f : KeyText → Workflow (Except Failure α)) : Workflow (Except Failure α) :=
  match op.keyFor account task with
  | .error e => .done (.error e)
  | .ok key => f key

def invoke (op : Operator) (key : KeyText) (contract : Address) (i : Invocation)
    (value : Option Wei) : Workflow (Except Failure TxHash) :=
  (Submission.ofInvocation key contract i value).submit op.timeLimit

def pay (op : Operator) (key : KeyText) (recipient : Address) (amount : Wei) :
    Workflow (Except Failure TxHash) :=
  (Submission.payment key recipient amount).submit op.timeLimit

def send (op : Operator) (sender recipient : Address) (amount : Wei) :
    Workflow (Except Failure TxHash) :=
  op.withKey sender "send" fun key => op.pay key recipient amount

/-- Allows the contract to take tokens, waits until that is certain, and deposits them. -/
def depositTokens (op : Operator) (key : KeyText) (sender : Address) (amount : Wei)
    (collateral token : Address) : Workflow (Except Failure TxHash) := do
  match ← op.invoke key token (Token.approve collateral amount) none with
  | .error f => return .error f
  | .ok approval =>
    match ← op.waiter.wait approval with
    | .error f => return .error f
    | .ok () => op.invoke key collateral (TokenCollateral.deposit sender amount) none

def addCollateral (op : Operator) (sender : Address) (amount : Wei) (target : Collateral.Target) :
    Workflow (Except Failure TxHash) :=
  op.withKey sender "collateral add" fun key =>
    match target with
    | .token collateral token => op.depositTokens key sender amount collateral token
    | .native collateral account =>
      op.invoke key collateral (NativeCollateral.deposit account) (some amount)

def withdrawCollateral (op : Operator) (owner : Address) (amount : Wei)
    (target : Collateral.Target) : Workflow (Except Failure TxHash) :=
  op.withKey owner "collateral withdraw" fun key =>
    match target with
    | .token collateral _ =>
      op.invoke key collateral (TokenCollateral.withdraw owner amount) none
    | .native collateral account =>
      op.invoke key collateral (NativeCollateral.withdraw account amount) none

def sendTokens (op : Operator) (sender recipient : Address) (amount : Wei) (token : Address) :
    Workflow (Except Failure TxHash) :=
  op.withKey sender "collateral send" fun key =>
    op.invoke key token (Token.transfer recipient amount) none

def askBalance (account : Address) : Workflow (Except Failure Wei) := do
  return (← Workflow.of (.ask (.balance account))).mapError .connection

def askNonce (account : Address) : Workflow (Except Failure UInt64) := do
  return (← Workflow.of (.ask (.pendingNonce account))).mapError .connection

end Operator

/-- A row with the result of a look-up. One that fails leaves its fields empty and is told of in the
row. -/
def Row.withResult {α : Type} (row : Row) (set : Row → α → Row) : Except Failure α → Row
  | .ok a => set row a
  | .error f => row.withError f

namespace Operator

def setBalance (row : Row) (amount : Wei) : Row :=
  { row with balance := Amount.format amount }

def balanceRow (token : Option Address) (account : Address) : Workflow Row := do
  let balance ← match token with
    | some token => Token.askBalance token account
    | none => askBalance account
  let row := (Row.blank account).withResult setBalance balance
  let nonce ← askNonce account
  return row.withResult (fun row n => { row with nonce := some n }) nonce

/-- The row of an account in the listing of collateral. The amount in escrow is looked up for
collateral in tokens; a contract for the chain's own currency knows it itself. -/
def collateralRow (target : Collateral.Target)
    (escrow : Address → Workflow (Except Failure String)) (account : Address) :
    Workflow Row := do
  let row := (Row.blank account).withResult setBalance (← askBalance account)
  match target with
  | .token collateral _ =>
    let held ← TokenCollateral.askBalance collateral account
    let row := row.withResult (fun row text => { row with collateral := some text }) held
    let amount ← escrow account
    return row.withResult (fun row text => { row with frozen := some text }) amount
  | .native collateral provider =>
    let holding ← NativeCollateral.askHolding collateral provider
    return row.withResult (fun row (h : NativeCollateral.Holding) =>
      { row with collateral := some h.balance, frozen := some h.frozen }) holding

def rows (op : Operator) (row : Address → Workflow Row) :
    Workflow (Except Failure (List Row)) :=
  match op.accounts with
  | .error f => .done (.error f)
  | .ok accounts => do return .ok (← accounts.mapM row)

def listBalances (op : Operator) (token : Option Address) :
    Workflow (Except Failure (List Row)) :=
  op.rows (balanceRow token)

def listCollateral (op : Operator) (target : Collateral.Target)
    (escrow : Address → Workflow (Except Failure String)) :
    Workflow (Except Failure (List Row)) :=
  op.rows (collateralRow target escrow)

end Operator

end ProviderWallet
