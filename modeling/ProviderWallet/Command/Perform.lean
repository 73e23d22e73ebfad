import ProviderWallet.Command.Basic
import ProviderWallet.Command.Session
import ProviderWallet.Hub.Lookup

namespace ProviderWallet.Command

structure Inputs where
  input : Bytes
  /-- What is drawn at random: for a new record, and for a new key. -/
  fresh : Fresh
  secret : SecretKey

def reporting {α : Type} (report : α → Report) (w : Workflow (Except Failure α)) :
    Workflow (Except Problem Report) := do
  return (Problem.ofFailure (← w)).map report

def whileDoing (doing : String) (w : Workflow (Except Problem Report)) :
    Workflow (Except Problem Report) := do
  return Problem.whileDoing doing (← w)

namespace Session

def newKey (s : Session) (inputs : Inputs) : Action Task := do
  let account ← s.withWallet fun store w => w.generate store inputs.fresh inputs.secret
  return .done (.made account)

def listKeys (s : Session) (inTokens : Bool) : Action Task := do
  let folder ← s.openKeystore
  let token ← if inTokens then some <$> Action.ofProblem s.config.tokenAddress else pure none
  s.remotely folder fun op => reporting .balances (op.listBalances token)

def keyInput (inputs : Inputs) : Option String → Action String
  | some path => do
    match (← get).readText path with
    | .ok text => return text
    | .error fault =>
      throw (.during ("failed to read key file " ++ path) (.plain fault.message))
  | none =>
    match Bytes.toText? inputs.input with
    | some text => return text
    | none =>
      throw (.during "failed to read private key from stdin"
        (.plain Storage.Fault.notText.message))

def importKey (s : Session) (inputs : Inputs) (path : Option String) : Action Task := do
  let key := Text.Blank.trimText (← keyInput inputs path)
  if key = "" then throw (.plain "no private key provided")
  let account ← s.withWallet fun store w => w.importKey store inputs.fresh ⟨key⟩
  return .done (.imported account)

def revealKey (s : Session) (account : String) : Action Task := do
  let account ← addressArgument "address" account
  let key ← s.withWallet fun store w => w.reveal store account
  return .done (.secret key)

def deleteKey (s : Session) (account : String) (isCertain : Bool) : Action Task := do
  let account ← addressArgument "address" account
  if !isCertain then
    throw (.plain ("pass --really-do-it to permanently delete the key for " ++ account.text))
  s.withWallet fun store w => w.delete store account
  return .done (.deleted account)

def sign (s : Session) (account message : String) : Action Task := do
  let account ← addressArgument "address" account
  let signature ← s.withWallet fun store w => w.sign store account (Bytes.ofText message)
  return .done (.signed signature)

def withoutMarks : List Char → List Char
  | '0' :: 'x' :: cs => withoutMarks cs
  | cs => cs

def signatureArgument (signature : String) : Action Bytes :=
  let digits := withoutMarks (Text.Blank.trim signature.toList)
  match Text.Hex.decodeText (String.ofList digits) with
  | .ok bytes => pure bytes
  | .error fault => throw (.during "signature must be hex encoded" (.plain fault.message))

def verify (s : Session) (account signature message : String) : Action Task := do
  let account ← addressArgument "address" account
  let bytes ← signatureArgument signature
  let _ ← s.openKeystore
  if Signature.verify account bytes (Bytes.ofText message) then return .done .verified
  else throw (.plain ("signature does not match " ++ account.text))

def send (s : Session) (sender recipient amount : String) : Action Task := do
  let sender ← addressArgument "from address" sender
  let recipient ← addressArgument "to address" recipient
  let amount ← amountArgument amount
  let folder ← s.openKeystore
  s.remotely folder fun op => reporting .sent (op.send sender recipient amount)

def addCollateral (s : Session) (sender amount : String) (kind : Collateral.Kind) :
    Action Task := do
  let sender ← addressArgument "from address" sender
  let amount ← amountArgument amount
  let target ← s.target kind
  let folder ← s.openKeystore
  s.remotely folder fun op =>
    whileDoing (kind.text ++ " collateral deposit")
      (reporting .sent (op.addCollateral sender amount target))

def withdrawCollateral (s : Session) (owner amount : String) (kind : Collateral.Kind) :
    Action Task := do
  let owner ← addressArgument "owner address" owner
  let amount ← amountArgument amount
  let target ← s.target kind
  let folder ← s.openKeystore
  s.remotely folder fun op =>
    whileDoing (kind.text ++ " collateral withdrawal")
      (reporting .sent (op.withdrawCollateral owner amount target))

def sendCollateral (s : Session) (sender recipient amount : String) : Action Task := do
  let sender ← addressArgument "from address" sender
  let recipient ← addressArgument "to address" recipient
  let amount ← amountArgument amount
  let token ← .ofProblem s.config.tokenAddress
  let folder ← s.openKeystore
  s.remotely folder fun op => reporting .sent (op.sendTokens sender recipient amount token)

def listCollateral (s : Session) (kind : Collateral.Kind) : Action Task := do
  let target ← s.target kind
  let folder ← s.openKeystore
  s.remotely folder fun op =>
    reporting .collateral (op.listCollateral target (Hub.escrow s.config.hub))

def showAccount (s : Session) : Action Task := do
  let contract ← s.accountAddress
  let folder ← s.openKeystore
  s.remotely folder fun _ => reporting .account (Contract.Account.askState contract)

end Session

namespace Change

def task : Change → String
  | owner _ => "change owner"
  | beneficiary .. => "change beneficiary"
  | addresses _ => "change multiaddrs"
  | flag _ => "change ubi flag"
  | proof .. => "submit proof"

open Contract in
def invocation : Change → Action Invocation
  | owner account => return Account.changeOwner (← addressArgument "new owner address" account)
  | beneficiary account quota expiration => do
    let account ← addressArgument "beneficiary address" account
    let quota ← quantityArgument "quota" quota
    let expiration ← quantityArgument "expiration" expiration
    return Account.changeBeneficiary account quota expiration
  | addresses texts => return Account.changeAddresses texts
  | flag f => return Account.changeFlag f
  | proof task taskType proofType content =>
    return Account.submitProof task taskType proofType content

end Change

def Session.changeAccount (s : Session) (signer : String) (change : Change) : Action Task := do
  let contract ← s.accountAddress
  let invocation ← change.invocation
  let folder ← s.openKeystore
  let signer ← addressArgument "signer address" signer
  let endpoint ← s.endpoint
  let op := s.operator folder (← get)
  let key ← .ofFailure (op.keyFor signer change.task)
  return .remote endpoint (reporting .sent (op.invoke key contract invocation none))

/-- Carries a command out up to what is done over the network. All that it needs is looked for
before a key changes or anyone is asked. -/
def Session.perform (s : Session) (inputs : Inputs) : Command → Action Task
  | .newKey => s.newKey inputs
  | .listKeys inTokens => s.listKeys inTokens
  | .importKey path => s.importKey inputs path
  | .revealKey account => s.revealKey account
  | .deleteKey account isCertain => s.deleteKey account isCertain
  | .sign account message => s.sign account message
  | .verify account signature message => s.verify account signature message
  | .send sender recipient amount => s.send sender recipient amount
  | .addCollateral sender amount kind => s.addCollateral sender amount kind
  | .withdrawCollateral owner amount kind => s.withdrawCollateral owner amount kind
  | .sendCollateral sender recipient amount => s.sendCollateral sender recipient amount
  | .listCollateral kind => s.listCollateral kind
  | .showAccount => s.showAccount
  | .changeAccount signer change => s.changeAccount signer change

end ProviderWallet.Command
