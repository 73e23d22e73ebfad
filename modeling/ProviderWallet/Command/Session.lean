import ProviderWallet.Command.Report
import ProviderWallet.Config.Load
import ProviderWallet.Keystore.Folder
import ProviderWallet.Network
import ProviderWallet.Operator

namespace ProviderWallet.Command

/-- Work on files. What it changed stays changed even if it fails later. -/
abbrev Action := ExceptT Problem (StateM Storage.Files)

namespace Action

variable {α : Type}

def of (step : Storage.Files → Except Problem α × Storage.Files) : Action α :=
  step

def ofFailure : Except Failure α → Action α
  | .ok a => pure a
  | .error f => throw (.failure f)

def ofProblem : Except Problem α → Action α
  | .ok a => pure a
  | .error p => throw p

end Action

/-- What is left to do when a command is checked and files are as they should be. -/
inductive Task where
  | done (report : Report)
  | remote (endpoint : Http.Url) (work : Workflow (Except Problem Report))

structure Session where
  folder : String
  config : Config
  chain : Option String
  passphrase : Option String
  deriving DecidableEq, Repr

def addressArgument (name value : String) : Action Address :=
  .ofProblem (Problem.whileDoing ("invalid " ++ name) (Problem.ofFailure (Address.parse value)))

def amountArgument (value : String) : Action Wei :=
  .ofFailure (Amount.parse value)

def quantityProblem : List String → Problem
  | [] => .plain ""
  | [text] => .plain text
  | text :: texts => .during text (quantityProblem texts)

def quantityArgument (name value : String) : Action Wei :=
  match Quantity.read (Text.Blank.trimText value) with
  | .ok n => pure n
  | .error fault =>
    throw (.during ("invalid " ++ name ++ ": " ++ Text.Quoted.quote value)
      (quantityProblem fault.messages))

namespace Session

def load (env : Environment) (chain : Option String) : Action Session := do
  let (folder, config) ← .of (Config.load env)
  return ⟨folder, config, chain, env.passphrase⟩

/-- The keystore's folder, which is there afterwards. -/
def openKeystore (s : Session) : Action Keystore.Folder := do
  let path := s.config.keystorePath s.folder
  .of fun files =>
    match Keystore.Folder.prepare path files with
    | .ok files => (.ok (), files)
    | .error f =>
      (.error (.during ("failed to open keystore at " ++ path) (.failure f)), files)
  return Keystore.Folder.withEnvironment ⟨path, none⟩ s.passphrase

def withWallet {α : Type} (s : Session)
    (step : Keystore Storage.Files → Wallet Storage.Files →
      Except Failure α × Wallet Storage.Files) : Action α := do
  let folder ← s.openKeystore
  .of fun files =>
    let (result, wallet) := step folder.keystore (Wallet.ofRecords files)
    (Problem.ofFailure result, wallet.records)

def endpoint (s : Session) : Action Http.Url := do
  .ofFailure (Network.endpointOf (← .ofProblem (s.config.endpoint s.chain)))

def operator (s : Session) (folder : Keystore.Folder) (files : Storage.Files) : Operator :=
  Operator.ofWallet folder.keystore (Wallet.ofRecords files) s.config.waiter s.config.timeLimit

/-- Opens the keystore and leaves the rest to an operator. -/
def remotely (s : Session) (folder : Keystore.Folder)
    (work : Operator → Workflow (Except Problem Report)) : Action Task := do
  let endpoint ← s.endpoint
  return .remote endpoint (work (s.operator folder (← get)))

def accountAddress (s : Session) : Action Address := do
  .ofProblem (s.config.accountAddress s.folder (← get))

def target (s : Session) : Collateral.Kind → Action Collateral.Target
  | .token => do
    let collateral ← .ofProblem s.config.tokenCollateralAddress
    return .token collateral (← .ofProblem s.config.tokenAddress)
  | .native => do
    let collateral ← .ofProblem s.config.collateralAddress
    return .native collateral (← s.accountAddress)

end Session

end ProviderWallet.Command
