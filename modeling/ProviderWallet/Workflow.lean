import ProviderWallet.Hub.Page
import ProviderWallet.Node

namespace ProviderWallet

/-- A point in time or a span of time, in milliseconds. -/
abbrev Millis := Nat

namespace Millis

/-- The last point in time that the clock can tell: its seconds are a signed word of 64 bits. -/
def last : Millis :=
  Nat.pow 2 63 * 1000 - 1

def after? (start span : Millis) : Option Millis :=
  if start + span ≤ last then some (start + span) else none

theorem after?_of_le {start span : Millis} (within : start + span ≤ last) :
    after? start span = some (start + span) := if_pos within

theorem after?_of_lt {start span : Millis} (beyond : last < start + span) :
    after? start span = none := if_neg (Nat.not_le.mpr beyond)

end Millis

inductive Request where
  /-- Ask the node and wait for its answer. -/
  | ask (call : Node.Call)
  /-- Ask the node and wait for its answer until a point in time. -/
  | askUntil (deadline : Millis) (call : Node.Call)
  | fetch (page : Hub.Page)
  | sleep (span : Millis)
  | clock
  /-- Wait until no one else sends transactions of an account. -/
  | enter (account : Address)
  /-- Let others send transactions of the account. -/
  | leave (account : Address)

/-- The answers to a request. There is none from the node if the deadline passes before. -/
abbrev Request.Answer : Request → Type
  | .ask call => call.Answer
  | .askUntil _ call => Option call.Answer
  | .fetch _ => Hub.Answer
  | .clock => Millis
  | .sleep _ | .enter _ | .leave _ => Unit

/-- A result, or a request and what follows for every answer. It does nothing by itself, so that it
can be run over a network, tried out against a script, or reasoned about for all answers at once. -/
inductive Workflow (α : Type) where
  | done (result : α)
  | request (q : Request) (next : q.Answer → Workflow α)

namespace Workflow

variable {α β : Type}

def bind (w : Workflow α) (f : α → Workflow β) : Workflow β :=
  match w with
  | done a => f a
  | request q next => request q fun answer => bind (next answer) f

instance : Monad Workflow where
  pure := done
  bind := bind

def of (q : Request) : Workflow q.Answer :=
  request q done

def askBy (deadline : Option Millis) (call : Node.Call) : Workflow (Option call.Answer) :=
  match deadline with
  | some time => of (.askUntil time call)
  | none => request (.ask call) fun answer => done (some answer)

@[simp] theorem bind_done (a : α) (f : α → Workflow β) : (done a).bind f = f a := rfl

@[simp] theorem bind_request (q : Request) (next : q.Answer → Workflow α)
    (f : α → Workflow β) :
    (request q next).bind f = request q fun answer => (next answer).bind f := rfl

@[simp] theorem pure_eq (a : α) : (pure a : Workflow α) = done a := rfl

@[simp] theorem bind_eq (w : Workflow α) (f : α → Workflow β) : (w >>= f) = w.bind f := rfl

theorem bind_done_right (w : Workflow α) : w.bind done = w := by
  induction w with
  | done a => rfl
  | request q next ih => simp [ih]

theorem bind_bind {γ : Type} (w : Workflow α) (f : α → Workflow β) (g : β → Workflow γ) :
    (w.bind f).bind g = w.bind fun a => (f a).bind g := by
  induction w with
  | done a => rfl
  | request q next ih => simp [ih]

instance : LawfulMonad Workflow :=
  LawfulMonad.mk' Workflow (fun w => bind_done_right w) (fun _ _ => rfl)
    (fun w f g => bind_bind w f g)

end Workflow

end ProviderWallet
