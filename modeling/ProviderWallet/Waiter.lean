import ProviderWallet.Workflow

namespace ProviderWallet

structure Waiter where
  interval : Millis
  timeout : Millis
  deriving DecidableEq, Repr

namespace Waiter

open Workflow
open Confirmation (State)

def standard : Waiter := ⟨3000, 180000⟩

def expired (w : Waiter) (hash : TxHash) : Failure :=
  .receiptTimeout hash.text (w.timeout / 1000)

/-- Sleeps and looks up, at most as many times as given. It ends with the first receipt, with the
first failure, or when the time is over. -/
def poll (w : Waiter) (hash : TxHash) (start : Millis) : (rounds : Nat) →
    Workflow (Except Failure Unit)
  | 0 => .done (.error (w.expired hash))
  | rounds + 1 => do
    of (.sleep w.interval)
    let time ← of .clock
    if start + w.timeout ≤ time then return .error (w.expired hash)
    else
      match ← of (.ask (.receipt hash)) with
      | .error reason => return .error (.connection reason)
      | .ok receipt =>
        match State.observe receipt with
        | .confirmed => return .ok ()
        | .failed => return .error (.receiptFailed hash.text)
        | .timedOut => return .error (w.expired hash)
        | .pending => poll w hash start rounds

def rounds (w : Waiter) : Nat :=
  w.timeout / max w.interval 1 + 1

def wait (w : Waiter) (hash : TxHash) : Workflow (Except Failure Unit) := do
  let start ← of .clock
  w.poll hash start w.rounds

end Waiter

end ProviderWallet
