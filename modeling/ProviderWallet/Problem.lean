import ProviderWallet.Failure

namespace ProviderWallet

inductive Problem where
  | failure (f : Failure)
  | plain (text : String)
  | during (doing : String) (cause : Problem)
  deriving DecidableEq, Repr

namespace Problem

def messages : Problem → List String
  | failure f => [f.message]
  | plain text => [text]
  | during doing cause => doing :: cause.messages

def outermost : Problem → String
  | failure f => f.message
  | plain text => text
  | during doing _ => doing

def failure? : Problem → Option Failure
  | failure f => some f
  | plain _ => none
  | during _ cause => cause.failure?

def message (p : Problem) : String :=
  String.intercalate ": " p.messages

/-- A text in which the ASCII letters are in lower case. No other character has a lower case form
that begins with a letter of the phrases looked for and goes on with one. -/
def lower (s : String) : List Char :=
  s.toList.map Char.toLower

def occurs (phrase : List Char) : List Char → Bool
  | [] => phrase.isEmpty
  | c :: cs => phrase.isPrefixOf (c :: cs) || occurs phrase cs

def mentions (s phrase : String) : Bool :=
  occurs phrase.toList (lower s)

def advice (p : Problem) : String :=
  match p.failure? with
  | some (.keyNotFound ..) => p.message ++ ". Run `cpwallet wallet list` to see stored addresses."
  | some (.receiptTimeout ..) =>
    p.message ++ ". The transaction may still be mined; check it before retrying."
  | some (.invalidAmount ..) => p.message ++ ". Use a decimal token amount such as 1.5."
  | some _ => p.message
  | none =>
    if mentions p.outermost "insufficient funds" then "Insufficient funds: " ++ p.message
    else if mentions p.outermost "nonce too low" ||
        mentions p.outermost "replacement transaction" then
      "Transaction conflict, another transaction used this nonce: " ++ p.message
    else p.message

def whileDoing {α : Type} (doing : String) : Except Problem α → Except Problem α
  | .ok a => .ok a
  | .error p => .error (.during doing p)

def ofFailure {α : Type} : Except Failure α → Except Problem α
  | .ok a => .ok a
  | .error f => .error (.failure f)

end Problem

end ProviderWallet
