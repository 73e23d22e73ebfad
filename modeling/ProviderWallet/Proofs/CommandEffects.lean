import ProviderWallet.Proofs.CommandCourse

namespace ProviderWallet.Program

open Command (Inputs Need Report Session Settings Task)
open Keystore.Folder (IsShown)
open Network (Peers State Submits)
open Storage (Files)
open Storage.Files (SameAt)

variable {σ : Type}

/-- What a run of a command does, with the files and the network before and after it. Records are
files that are not hidden, wherever they are. -/
structure Effects (command : Command) (inputs : Inputs) (session : Except Problem Session)
    (files files' : Files) (state state' : State σ) (exit : Exit) : Prop where
  /-- A run that fails leaves all records as they were. -/
  failed : exit ≠ .success → SameAt IsShown files files'
  changes : exit = .success → ∃ s, session = .ok s ∧ command.Changes s inputs files files'
  submits : Submits command.submissions state state'
  unloaded : ∀ p, session = .error p → exit = .failure ∧ state' = state
  /-- If something is missing nobody is asked. -/
  unmet : ∀ s, session = .ok s → ∀ need ∈ command.needs, need.isMet s files' = false →
    exit = .failure ∧ state' = state
  /-- A command that needs no endpoint asks nobody. -/
  alone : .endpoint ∉ command.needs → state' = state

section

variable {command : Command} {inputs : Inputs} {session : Except Problem Session}
  {files files' : Files} {state state' : State σ}

/-- A run that stops before anyone is asked. -/
theorem Effects.stopped (same : SameAt IsShown files files') :
    Effects command inputs session files files' state state .failure where
  failed _ := same
  changes success := nomatch success
  submits := (Submits.nothing rfl).mono (Nat.zero_le _)
  unloaded _ _ := ⟨rfl, rfl⟩
  unmet _ _ _ _ _ := ⟨rfl, rfl⟩
  alone _ := rfl

variable {env : Environment} {peers : Http.Url → Peers σ} {settings : Settings}

/-- What is left of a command when the configuration is there. -/
theorem Effects.of_prepared {s : Session} {result : Except Problem Task}
    (prepared : command.Prepared s inputs files result files')
    (run : (prepare env inputs settings command).run.run files = (result, files')) :
    let run := runCommand env inputs peers settings command files state
    Effects command inputs (.ok s) files run.2.1 state run.2.2 run.1.exit := by
  cases prepared with
  | refused same =>
    rw [runCommand_refused run]
    exact .stopped same
  | settled changes met =>
    rw [runCommand_prepared run]
    exact {
      failed := fun failed => absurd rfl failed
      changes := fun _ => ⟨s, rfl, changes⟩
      submits := (Submits.nothing rfl).mono (Nat.zero_le _)
      unloaded := fun p none => nomatch none
      unmet := by
        rintro _ ⟨⟩ need among missing
        exact (met.not_missing among missing).elim
      alone := fun _ => rfl }
  | @ready endpoint work _ asks same few met =>
    rw [runCommand_prepared run]
    have submits := Network.run_submits few (peers endpoint) state
    rcases met with met | ⟨p, f, behind, told, rfl⟩
    · exact {
        failed := fun _ => same
        changes := fun _ => ⟨s, rfl, Command.changes_of_asks asks same⟩
        submits := submits
        unloaded := fun p none => nomatch none
        unmet := by
          rintro _ ⟨⟩ need among missing
          exact (met.not_missing among missing).elim
        alone := fun none => absurd asks none }
    · have outcome := ofResult_returned behind told settings
      change Effects command inputs (.ok s) files files' state state
        (Outcome.ofResult settings (.error p)).exit
      rw [outcome]
      exact .stopped same

/-- What a run does, from its arguments being understood on. -/
theorem runCommand_effects (env : Environment) (inputs : Inputs) (peers : Http.Url → Peers σ)
    (settings : Settings) (command : Command) (files : Files) (state : State σ) :
    let run := runCommand env inputs peers settings command files state
    Effects command inputs ((Session.load env settings.chain).run.run files).1 files run.2.1 state
      run.2.2 run.1.exit := by
  intro run
  have only := Session.load_only env settings.chain files
  generalize loaded : (Session.load env settings.chain).run.run files = outcome at only ⊢
  obtain ⟨session, between⟩ := outcome
  cases session with
  | error p =>
    have stops : run = (.ofProblem settings p, between, state) :=
      runCommand_refused (prepare_stops loaded)
    rw [stops]
    exact .stopped (only.sameAt _)
  | ok s =>
    exact .of_prepared ((s.perform_prepares inputs between command).after only)
      ((prepare_run loaded).trans (Prod.eta _).symm)

end

/-- Whatever is asked for on the command line and whatever the surroundings are like. -/
theorem command_effects {args : List String} {settings : Settings} {command : Command}
    (parsed : Command.parse args = .ok (settings, command)) (env : Environment) (inputs : Inputs)
    (peers : Http.Url → Peers σ) (files : Files) (state : State σ) :
    let run := run env inputs peers args files state
    Effects command inputs ((Session.load env settings.chain).run.run files).1 files run.2.1 state
      run.2.2 run.1.exit := by
  rw [run, parsed]
  exact runCommand_effects env inputs peers settings command files state

/-- A listing is asked for on a chain that nothing is configured for. -/
theorem unknown_chain_asks_nobody :
    let env : Environment := ⟨some "/c", none, none, none, none, none⟩
    let inputs : Inputs := ⟨[], ⟨0, 0, 0⟩, ⟨1, by decide, by decide⟩⟩
    let files := Files.withFolder ["c"]
    let run := run env inputs Network.unreachable ["--chain", "moon", "wallet", "list"] files
      ⟨(), 0, []⟩
    run.1.exit = .failure ∧ run.2.2.sent = [] ∧ SameAt IsShown files run.2.1 := by
  intro env inputs files run
  have parsed : Command.parse ["--chain", "moon", "wallet", "list"] =
      .ok (⟨some "moon", false⟩, .listKeys false) := by decide +kernel
  have effects := command_effects parsed env inputs Network.unreachable files ⟨(), 0, []⟩
  have loaded : ((Session.load env (some "moon")).run.run files).1 =
      .ok ⟨"/c", .standard, some "moon", none⟩ := by decide +kernel
  obtain ⟨failed, asked⟩ := effects.unmet _ loaded .endpoint (by simp [Command.needs]) rfl
  refine ⟨failed, ?_, effects.failed ?_⟩
  · exact congrArg State.sent asked
  · intro success
    rw [failed] at success
    cases success

end ProviderWallet.Program
