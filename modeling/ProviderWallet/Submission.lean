import ProviderWallet.Contract.Basic
import ProviderWallet.Workflow

namespace ProviderWallet

/-- What is to be submitted: whose key signs it, where it goes, and how it is told of in
messages. -/
structure Submission where
  key : KeyText
  recipient : Address
  input : Bytes
  value : Option Wei
  method : String
  deriving DecidableEq, Repr

namespace Submission

open Workflow

def ofInvocation (key : KeyText) (contract : Address) (i : Contract.Invocation)
    (value : Option Wei) : Submission :=
  ⟨key, contract, i.input, value, i.signature⟩

def payment (key : KeyText) (recipient : Address) (amount : Wei) : Submission :=
  ⟨key, recipient, [], some amount, "transfer"⟩

inductive Stop where
  | failed (f : Failure)
  | late
  deriving DecidableEq, Repr

def parameter (deadline : Option Millis) (call : Node.Call) (told : String → Failure) :
    ExceptT Stop Workflow call.Reply :=
  ExceptT.mk do
    match ← askBy deadline call with
    | none => return .error .late
    | some (.error reason) => return .error (.failed (told (Failure.connection reason).message))
    | some (.ok reply) => return .ok reply

def fetchFor (signer : SecretKey) (value : Option Wei) (deadline : Option Millis) :
    ExceptT Stop Workflow Transaction.Parameters := do
  let sender := signer.address.text
  let nonce ← parameter deadline (.pendingNonce signer.address) (.nonceFetch sender)
  let suggested ← parameter deadline .gasPrice (.gasPriceFetch sender)
  let tip ← parameter deadline .gasTip (.gasPriceFetch sender)
  let chainId ← parameter deadline .chainId (.chainIdFetch sender)
  let feeCap := Fee.cap suggested
  return ⟨signer, nonce, chainId, feeCap, Fee.tipCap feeCap tip, value⟩

def parameters (key : KeyText) (value : Option Wei) (deadline : Option Millis) :
    ExceptT Stop Workflow Transaction.Parameters :=
  match key.secret with
  | .error f => throw (.failed f)
  | .ok signer => fetchFor signer value deadline

def refused (s : Submission) (sender : Address) (reason : String) : Failure :=
  .submission sender.text s.method reason

def send (s : Submission) (p : Transaction.Parameters) (deadline : Millis) :
    Workflow (Except Failure TxHash) := do
  let sender := p.signer.address
  match ← of (.askUntil deadline (.send p.signer (p.complete s.recipient s.input))) with
  | none => return .error (s.refused sender "deadline exceeded while sending")
  | some (.error reason) =>
    return .error (s.refused sender (Failure.connection reason).message)
  | some (.ok hash) => return .ok hash

/-- Fetches the parameters and hands the transaction over, while no one else does for the sender, so
that no two transactions carry one nonce. -/
def sendInTurn (s : Submission) (signer : SecretKey) (deadline : Millis) :
    Workflow (Except Failure TxHash) := do
  match ← (fetchFor signer s.value (some deadline)).run with
  | .error (.failed f) => return .error f
  | .error .late =>
    return .error (s.refused signer.address "deadline exceeded while building")
  | .ok p => s.send p deadline

def beyondClock : String :=
  "overflow when adding duration to instant"

def sendBefore (s : Submission) (signer : SecretKey) :
    (deadline : Option Millis) → Workflow (Except Failure TxHash)
  | some time => s.sendInTurn signer time
  | none => .done (.error (.panicked beyondClock))

/-- Submits a transaction. The time that it may take is counted from the sender's turn, which ends
also if that time has no end that the clock can tell. -/
def submit (s : Submission) (timeLimit : Millis) : Workflow (Except Failure TxHash) :=
  match s.key.secret with
  | .error f => .done (.error f)
  | .ok signer => do
    of (.enter signer.address)
    let start ← of .clock
    let result ← s.sendBefore signer (Millis.after? start timeLimit)
    of (.leave signer.address)
    return result

section

variable {s : Submission}

theorem submit_unsigned {f : Failure} (unsigned : s.key.secret = .error f) (timeLimit : Millis) :
    s.submit timeLimit = .done (.error f) := by
  rw [submit, unsigned]

theorem submit_signed {signer : SecretKey} (known : s.key.secret = .ok signer)
    (timeLimit : Millis) :
    s.submit timeLimit = .request (.enter signer.address) fun _ => .request .clock fun start =>
      (s.sendBefore signer (Millis.after? start timeLimit)).bind fun result =>
        .request (.leave signer.address) fun _ => .done result := by
  rw [submit, known]
  rfl

end

end Submission

end ProviderWallet
