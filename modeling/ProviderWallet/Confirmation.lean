namespace ProviderWallet.Confirmation

inductive Receipt where
  | success
  | failure
  deriving DecidableEq, Repr

inductive State where
  | pending
  | confirmed
  | failed
  | timedOut
  deriving DecidableEq, Repr

namespace State

def isTerminal : State → Bool
  | pending => false
  | _ => true

def observe : Option Receipt → State
  | none => pending
  | some .success => confirmed
  | some .failure => failed

def all : List State :=
  [pending, confirmed, failed, timedOut]

def name : State → String
  | pending => "Pending"
  | confirmed => "Confirmed"
  | failed => "Failed"
  | timedOut => "TimedOut"

end State

end ProviderWallet.Confirmation
