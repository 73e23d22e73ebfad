import ProviderWallet.Command.Perform
import ProviderWallet.Command.Usage

namespace ProviderWallet.Program

open Command (Action Inputs Report Session Settings Stop Task)
open Storage (Files)

inductive Exit where
  | success
  | failure
  | usage
  | panic
  deriving DecidableEq, Repr

def Exit.code : Exit → UInt8
  | success => 0
  | failure => 1
  | usage => 2
  | panic => 101

structure Outcome where
  exit : Exit
  output : String
  errors : String
  deriving DecidableEq, Repr

namespace Outcome

def ofStop : Stop → Outcome
  | .usage => ⟨.usage, "", Command.usageText ++ "\n"⟩
  | .help => ⟨.success, Command.usageText ++ "\n", ""⟩
  | .version => ⟨.success, Command.versionText ++ "\n", ""⟩

def ofProblem (settings : Settings) (p : Problem) : Outcome :=
  ⟨.failure, "", Command.problemText settings.json p⟩

def ofResult (settings : Settings) : Except Problem Report → Outcome
  | .ok report => ⟨.success, report.output settings.json, report.warning⟩
  | .error p =>
    match p.failure? with
    | some (.panicked message) => ⟨.panic, "", Command.panicText message⟩
    | _ => ofProblem settings p

end Outcome

/-- Carries a command out up to what is done over the network. -/
def prepare (env : Environment) (inputs : Inputs) (settings : Settings) (command : Command) :
    Action Task := do
  let session ← Session.load env settings.chain
  session.perform inputs command

variable {σ : Type}

/-- Does over the network what is left of a command. -/
def finish (peers : Http.Url → Network.Peers σ) (state : Network.State σ) :
    Task → Except Problem Report × Network.State σ
  | .done report => (.ok report, state)
  | .remote endpoint work => Network.run (peers endpoint) work state

def runCommand (env : Environment) (inputs : Inputs) (peers : Http.Url → Network.Peers σ)
    (settings : Settings) (command : Command) (files : Files) (state : Network.State σ) :
    Outcome × Files × Network.State σ :=
  let (prepared, files) := (prepare env inputs settings command).run.run files
  match prepared with
  | .error p => (.ofProblem settings p, files, state)
  | .ok task =>
    let (result, state) := finish peers state task
    (.ofResult settings result, files, state)

def run (env : Environment) (inputs : Inputs) (peers : Http.Url → Network.Peers σ)
    (args : List String) (files : Files) (state : Network.State σ) :
    Outcome × Files × Network.State σ :=
  match Command.parse args with
  | .error stop => (.ofStop stop, files, state)
  | .ok (settings, command) => runCommand env inputs peers settings command files state

end ProviderWallet.Program
