import ProviderWallet.Command.Program

namespace ProviderWallet

open Storage (Files)

theorem Keystore.Folder.prepare_of_exists {path : String} {files : Files}
    (there : files.exists? path = true) : Keystore.Folder.prepare path files = .ok files := by
  rw [prepare, Files.createPrivate, if_pos there]
  rfl

/-- A failure that a caller is told of, and no panic. -/
def Failure.IsReturned (f : Failure) : Prop :=
  ∀ message, f ≠ .panicked message

namespace Command

namespace Action

variable {α β : Type} {m : Action α} {files files' : Files}

theorem run_bind_ok {a : α} (h : m.run.run files = (.ok a, files')) (f : α → Action β) :
    (m >>= f).run.run files = (f a).run.run files' := by
  simp only [ExceptT.run_bind, StateT.run_bind, h]
  rfl

theorem run_bind_error {p : Problem} (h : m.run.run files = (.error p, files'))
    (f : α → Action β) : (m >>= f).run.run files = (.error p, files') := by
  simp only [ExceptT.run_bind, StateT.run_bind, h]
  rfl

theorem run_of_ok {step : Files → Except Problem α × Files} {a : α}
    (h : step files = (.ok a, files')) (f : α → Action β) :
    (of step >>= f).run.run files = (f a).run.run files' :=
  run_bind_ok h f

theorem run_of_error {step : Files → Except Problem α × Files} {p : Problem}
    (h : step files = (.error p, files')) (f : α → Action β) :
    (of step >>= f).run.run files = (.error p, files') :=
  run_bind_error h f

end Action

namespace Session

def keystore (s : Session) : Keystore.Folder :=
  .withEnvironment ⟨s.config.keystorePath s.folder, none⟩ s.passphrase

theorem path_keystore (s : Session) : s.keystore.path = s.config.keystorePath s.folder := by
  unfold keystore Keystore.Folder.withEnvironment
  split
  · split <;> rfl
  · rfl

variable {s : Session} {files files' : Files}

theorem openKeystore_of_ok
    (prepared : Keystore.Folder.prepare (s.config.keystorePath s.folder) files = .ok files') :
    s.openKeystore.run.run files = (.ok s.keystore, files') := by
  unfold openKeystore
  refine (Action.run_of_ok (a := ()) ?_ _).trans rfl
  simp only [prepared]

theorem openKeystore_of_error {f : Failure}
    (stopped : Keystore.Folder.prepare (s.config.keystorePath s.folder) files = .error f) :
    s.openKeystore.run.run files =
      (.error (.during ("failed to open keystore at " ++ s.config.keystorePath s.folder)
        (.failure f)), files) := by
  unfold openKeystore
  refine Action.run_of_error ?_ _
  simp only [stopped]

theorem endpoint_of_ok {url : String} {endpoint : Http.Url}
    (configured : s.config.endpoint s.chain = .ok url)
    (named : Network.endpointOf url = .ok endpoint) :
    s.endpoint.run.run files = (.ok endpoint, files) := by
  have known : (Action.ofProblem (s.config.endpoint s.chain)).run.run files = (.ok url, files) := by
    rw [configured]
    rfl
  rw [Session.endpoint, Action.run_bind_ok known, named]
  rfl

theorem withWallet_eq {α : Type} (s : Session)
    (step : Keystore Files → Wallet Files → Except Failure α × Wallet Files) :
    s.withWallet step = s.openKeystore >>= fun folder => .of fun files =>
      (Problem.ofFailure (step folder.keystore (Wallet.ofRecords files)).1,
        (step folder.keystore (Wallet.ofRecords files)).2.records) :=
  rfl

end Session

end Command

namespace Program

open Command (Inputs Session Settings Task)

variable {σ : Type} {env : Environment} {inputs : Inputs} {settings : Settings} {command : Command}
  {files files' : Files} {peers : Http.Url → Network.Peers σ} {state : Network.State σ}

theorem prepare_run {s : Session}
    (loaded : (Session.load env settings.chain).run.run files = (.ok s, files')) :
    (prepare env inputs settings command).run.run files =
      (s.perform inputs command).run.run files' := by
  rw [prepare, Command.Action.run_bind_ok loaded]

/-- A command whose configuration cannot be loaded goes no further. -/
theorem prepare_stops {p : Problem}
    (loaded : (Session.load env settings.chain).run.run files = (.error p, files')) :
    (prepare env inputs settings command).run.run files = (.error p, files') := by
  rw [prepare, Command.Action.run_bind_error loaded]

/-- A command that is refused has sent nothing. -/
theorem runCommand_refused {p : Problem}
    (prepared : (prepare env inputs settings command).run.run files = (.error p, files')) :
    runCommand env inputs peers settings command files state =
      (.ofProblem settings p, files', state) := by
  rw [runCommand, prepared]

/-- What is left of a command is done over the network, when the files are as they should be. -/
theorem runCommand_prepared {task : Task}
    (prepared : (prepare env inputs settings command).run.run files = (.ok task, files')) :
    runCommand env inputs peers settings command files state =
      (.ofResult settings (finish peers state task).1, files', (finish peers state task).2) := by
  rw [runCommand, prepared]

/-- A failure that is returned is told of as a problem. -/
theorem ofResult_returned {p : Problem} {f : Failure} (behind : p.failure? = some f)
    (told : f.IsReturned) (settings : Settings) :
    Outcome.ofResult settings (.error p) = .ofProblem settings p := by
  rw [Outcome.ofResult, behind]
  cases f with
  | panicked message => exact absurd rfl (told message)
  | _ => rfl

end Program

end ProviderWallet
