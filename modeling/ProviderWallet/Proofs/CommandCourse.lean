import ProviderWallet.Proofs.CommandNeeds
import ProviderWallet.Proofs.Outgoing
import ProviderWallet.Proofs.RecordEffects
import ProviderWallet.Proofs.SubmissionCourse

namespace ProviderWallet

open Command (Inputs Need Report Session Task)
open Keystore.Folder (Effect IsShown)
open Storage (Files)
open Storage.Files (OnlyFolders SameAt)
open Workflow

theorem KeyText.secret_isReturned {key : KeyText} {f : Failure}
    (unsigned : key.secret = .error f) : f.IsReturned := by
  obtain ⟨reason, rfl⟩ := KeyText.secret_error unsigned
  exact fun _ same => nomatch same

/-- A folder that cannot be read says why. -/
theorem Keystore.Folder.get_isReturned {folder : Keystore.Folder} {files : Files} {name : String}
    {f : Failure} (failed : folder.get files name = .error f) : f.IsReturned := by
  suffices ∃ step reason, f = .keystore step reason by
    obtain ⟨step, reason, rfl⟩ := this
    exact fun _ same => nomatch same
  unfold get pathOf at failed
  split at failed
  · dsimp only [Bind.bind, Except.bind] at failed
    split at failed
    · cases failed
    · cases failed
      exact ⟨_, _, rfl⟩
    · split at failed
      · cases failed
        exact ⟨_, _, rfl⟩
      · split at failed
        · cases failed
          exact ⟨_, _, rfl⟩
        · cases failed
  · cases failed
    exact ⟨_, _, rfl⟩

section unsigned

def Job.account? : Job → Option Address
  | send account .. | addCollateral account .. | withdrawCollateral account ..
  | sendTokens account .. => some account
  | changeAccount .. => none

namespace Operator

variable {op : Operator} {key : KeyText} {failure : Failure}

theorem invoke_unsigned (unsigned : key.secret = .error failure) (contract : Address)
    (i : Contract.Invocation) (value : Option Wei) :
    op.invoke key contract i value = .done (.error failure) :=
  Submission.submit_unsigned (s := .ofInvocation key contract i value) unsigned op.timeLimit

theorem pay_unsigned (unsigned : key.secret = .error failure) (recipient : Address)
    (amount : Wei) : op.pay key recipient amount = .done (.error failure) :=
  Submission.submit_unsigned (s := .payment key recipient amount) unsigned op.timeLimit

/-- Work that needs a key stops without asking if no key is found or none that can sign. -/
theorem withKey_unsigned {account : Address} {task : String}
    {f : KeyText → Workflow (Except Failure TxHash)}
    (told : ∀ e, op.keyOf account = .error e → e.IsReturned)
    (unusable : ∀ key, op.keyOf account = .ok (some key) → ∃ e, key.secret = .error e)
    (stops : ∀ key e, key.secret = .error e → f key = .done (.error e)) :
    ∃ e, e.IsReturned ∧ op.withKey account task f = .done (.error e) := by
  unfold withKey keyFor
  cases known : op.keyOf account with
  | error e => exact ⟨e, told e known, rfl⟩
  | ok found =>
    cases found with
    | none =>
      refine ⟨_, ?_, rfl⟩
      exact fun _ same => nomatch same
    | some key =>
      obtain ⟨e, unsigned⟩ := unusable key known
      exact ⟨e, KeyText.secret_isReturned unsigned, stops key e unsigned⟩

theorem keyOf_of_keyFor {account : Address} {task : String}
    (found : op.keyFor account task = .ok key) : op.keyOf account = .ok (some key) := by
  unfold keyFor at found
  split at found
  · cases found
  · cases found
  · rename_i known
    cases found
    exact known

end Operator

open Operator in
/-- Without a key that can sign there is nothing to ask. -/
theorem Job.run_unsigned {op : Operator} {job : Job} {account : Address}
    (signer : job.account? = some account)
    (told : ∀ e, op.keyOf account = .error e → e.IsReturned)
    (unusable : ∀ key, op.keyOf account = .ok (some key) → ∃ f, key.secret = .error f) :
    ∃ f, f.IsReturned ∧ job.run op = .done (.error f) := by
  cases job with
  | changeAccount key contract mutation => cases signer
  | send sender recipient amount =>
    cases signer
    exact withKey_unsigned told unusable fun key e unsigned => pay_unsigned unsigned ..
  | addCollateral sender amount target =>
    cases signer
    refine withKey_unsigned told unusable fun key e unsigned => ?_
    cases target with
    | native collateral provider => exact invoke_unsigned unsigned ..
    | token collateral token =>
      simp only [depositTokens, invoke_unsigned unsigned, bind_eq, bind_done, pure_eq]
  | withdrawCollateral owner amount target =>
    cases signer
    refine withKey_unsigned told unusable fun key e unsigned => ?_
    cases target <;> exact invoke_unsigned unsigned ..
  | sendTokens sender recipient amount token =>
    cases signer
    exact withKey_unsigned told unusable fun key e unsigned => invoke_unsigned unsigned ..

end unsigned

/-- A wallet that has looked up nothing yet finds what the keystore has. -/
theorem Wallet.find_fresh {σ : Type} (store : Keystore σ) (records : σ) (account : Address) :
    ((Wallet.ofRecords records).find store account).1 = store.get records account.recordName := by
  have unseen : (Wallet.ofRecords records).cache.find? account = none := rfl
  have same : (Wallet.ofRecords records).records = records := rfl
  rw [find, unseen, same]
  dsimp only
  cases store.get records account.recordName with
  | error f => rfl
  | ok found => cases found <;> rfl

namespace Command

/-- The most transactions that a command hands over. -/
def submissions : Command → Nat
  | addCollateral _ _ .token => 2
  | send .. | addCollateral _ _ .native | withdrawCollateral .. | sendCollateral ..
  | changeAccount .. => 1
  | newKey | listKeys _ | importKey _ | revealKey _ | deleteKey .. | sign .. | verify ..
  | listCollateral _ | showAccount => 0

/-- What becomes of records when a command succeeds: one comes to be or goes, or all are as they
were. -/
def Changes (s : Session) (inputs : Inputs) (files files' : Files) : Command → Prop
  | newKey => s.keystore.Adds inputs.secret.address files files'
  | importKey _ => ∃ account, s.keystore.Adds account files files'
  | deleteKey written isCertain =>
    isCertain = true ∧
      ∃ account, Address.parse written = .ok account ∧ s.keystore.Removes account files files'
  | listKeys _ | revealKey _ | sign .. | verify .. | send .. | addCollateral ..
  | withdrawCollateral .. | sendCollateral .. | listCollateral _ | showAccount | changeAccount .. =>
    SameAt IsShown files files'

/-- What a command may come to before anyone is asked. -/
inductive Prepared (command : Command) (s : Session) (inputs : Inputs) (files : Files) :
    Except Problem Task → Files → Prop where
  | refused {p : Problem} {files' : Files} (same : SameAt IsShown files files') :
      Prepared command s inputs files (.error p) files'
  | settled {report : Report} {files' : Files} (changes : command.Changes s inputs files files')
      (met : s.Meets files' command.needs) :
      Prepared command s inputs files (.ok (.done report)) files'
  | ready {endpoint : Http.Url} {work : Workflow (Except Problem Report)} {files' : Files}
      (asks : .endpoint ∈ command.needs) (same : SameAt IsShown files files')
      (few : work.HandsAtMost command.submissions)
      (met : s.Meets files' command.needs ∨
        ∃ (p : Problem) (f : Failure), p.failure? = some f ∧ f.IsReturned ∧
          work = .done (.error p)) :
      Prepared command s inputs files (.ok (.remote endpoint work)) files'

variable {α : Type} {command : Command} {s : Session} {inputs : Inputs}
  {files files' files'' : Files}

/-- A command that asks somebody changes no record. -/
theorem changes_of_asks (asks : .endpoint ∈ command.needs) (same : SameAt IsShown files files') :
    command.Changes s inputs files files' := by
  cases command with
  | newKey => simp [needs] at asks
  | importKey path => simp [needs] at asks
  | deleteKey written isCertain => simp [needs] at asks
  | _ => exact same

theorem Changes.after (only : OnlyFolders files files')
    (h : command.Changes s inputs files' files'') : command.Changes s inputs files files'' := by
  cases command with
  | newKey => exact Keystore.Folder.Adds.after only h
  | importKey path =>
    obtain ⟨account, adds⟩ := h
    exact ⟨account, adds.after only⟩
  | deleteKey written isCertain =>
    obtain ⟨certain, account, parsed, removes⟩ := h
    exact ⟨certain, account, parsed, removes.after only⟩
  | _ => exact (only.sameAt _).trans h

theorem Prepared.after (only : OnlyFolders files files') {result : Except Problem Task}
    (h : Prepared command s inputs files' result files'') :
    Prepared command s inputs files result files'' := by
  cases h with
  | refused same => exact .refused ((only.sameAt _).trans same)
  | settled changes met => exact .settled (changes.after only) met
  | ready asks same few met => exact .ready asks ((only.sameAt _).trans same) few met

namespace Action

/-- What a piece of a command comes to is what the command may come to. -/
def Prepares (m : Action Task) (command : Command) (s : Session) (inputs : Inputs)
    (files : Files) : Prop :=
  Prepared command s inputs files (m.run.run files).1 (m.run.run files).2

/-- A command goes on after a step that only looks at the files, or is refused by it. -/
theorem Reads.prepares {m : Action α} {fact : α → Prop} {f : α → Action Task}
    (h : m.Reads files fact)
    (rest : ∀ a, fact a → (f a).Prepares command s inputs files) :
    (m >>= f).Prepares command s inputs files := by
  rcases h.cases with ⟨p, stops⟩ | ⟨a, goes, known⟩
  · rw [Prepares, run_bind_error stops]
    exact .refused (.refl _ _)
  · rw [Prepares, run_bind_ok goes]
    exact rest a known

theorem throw_prepares (p : Problem) (f : α → Action Task) :
    ((throw p : Action α) >>= f).Prepares command s inputs files := by
  have stops : (throw p : Action α).run.run files = (.error p, files) := rfl
  rw [Prepares, run_bind_error stops]
  exact .refused (.refl _ _)

end Action

open Command.Action (Prepares)

namespace Session

/-- Folders may come to be when the keystore is opened, and the command goes on with these. -/
theorem openKeystore_prepares {f : Keystore.Folder → Action Task}
    (rest : ∀ files', OnlyFolders files files' →
      (f s.keystore).Prepares command s inputs files') :
    (s.openKeystore >>= f).Prepares command s inputs files := by
  obtain ⟨files', only, ⟨p, stops⟩ | goes⟩ := s.openKeystore_cases files
  · rw [Prepares, Action.run_bind_error stops]
    exact .refused (only.sameAt _)
  · rw [Prepares, Action.run_bind_ok goes]
    exact (rest files' only).after only

/-- A command that is done with one step of a wallet does what that step does. -/
theorem withWallet_prepares {report : α → Report}
    {step : Keystore Files → Wallet Files → Except Failure α × Wallet Files}
    (effect : ∀ files', Effect (fun _ files'' => command.Changes s inputs files' files'' ∧
        s.Meets files'' command.needs) files'
      (step s.keystore.keystore (Wallet.ofRecords files')).1
      (step s.keystore.keystore (Wallet.ofRecords files')).2.records) :
    (s.withWallet step >>= fun a => pure (.done (report a))).Prepares command s inputs files := by
  rw [withWallet_eq, bind_assoc]
  apply openKeystore_prepares
  intro files' only
  have effect' := effect files'
  let outcome := step s.keystore.keystore (Wallet.ofRecords files')
  have run : (Action.of fun files =>
      (Problem.ofFailure (step s.keystore.keystore (Wallet.ofRecords files)).1,
        (step s.keystore.keystore (Wallet.ofRecords files)).2.records)).run.run files' =
      (Problem.ofFailure outcome.1, outcome.2.records) := rfl
  change Effect _ files' outcome.1 outcome.2.records at effect'
  generalize outcome.1 = result at effect' run
  generalize outcome.2.records = last at effect' run
  cases effect' with
  | done h =>
    rw [Prepares, Action.run_bind_ok run]
    exact .settled h.1 h.2
  | failed same =>
    rw [Prepares, Action.run_bind_error run]
    exact .refused same

/-- A command that leaves the rest to an operator. -/
theorem remotely_prepares {work : Operator → Workflow (Except Problem Report)}
    (asks : .endpoint ∈ command.needs) (few : ∀ op, (work op).HandsAtMost command.submissions)
    (met : Need.endpoint.isMet s files = true →
      s.Meets files command.needs ∨ ∃ (p : Problem) (f : Failure), p.failure? = some f ∧
        f.IsReturned ∧ work (s.operator s.keystore files) = .done (.error p)) :
    (s.remotely s.keystore work).Prepares command s inputs files := by
  unfold remotely
  refine (s.endpoint_reads files).prepares ?_
  intro endpoint reached
  refine Action.Reads.get.prepares ?_
  rintro _ rfl
  exact .ready asks (.refl _ _) (few _) (met reached)

theorem keyOf_operator (s : Session) (files : Files) (account : Address) :
    (s.operator s.keystore files).keyOf account = s.keystore.get files account.recordName := by
  have found := Wallet.find_fresh s.keystore.keystore files account
  rw [Keystore.Folder.keystore_get] at found
  rw [operator, Operator.ofWallet, ← found]

/-- An account has a key in the session, or work that needs it asks nobody. -/
theorem signs_or_stops {job : Job} {account : Address} (signer : job.account? = some account)
    (s : Session) (files : Files) :
    s.hasKey files account = true ∨
      ∃ f, f.IsReturned ∧ job.run (s.operator s.keystore files) = .done (.error f) := by
  cases known : s.hasKey files account with
  | true => exact .inl rfl
  | false =>
    refine .inr (Job.run_unsigned signer (fun e failed => ?_) fun key found => ?_)
    · rw [keyOf_operator] at failed
      exact Keystore.Folder.get_isReturned failed
    rw [keyOf_operator] at found
    cases signed : key.secret with
    | error f => exact ⟨f, rfl⟩
    | ok secret =>
      rw [hasKey_of found signed] at known
      cases known

end Session

/-- What is made of a result hands nothing over, and a failure stays one. -/
structure Relays {α : Type}
    (post : Workflow (Except Failure α) → Workflow (Except Problem Report)) : Prop where
  few {n : Nat} {w : Workflow (Except Failure α)} (h : w.HandsAtMost n) : (post w).HandsAtMost n
  fails (f : Failure) : ∃ p, p.failure? = some f ∧ post (.done (.error f)) = .done (.error p)

theorem reporting_relays {α : Type} (report : α → Report) : Relays (reporting report) :=
  ⟨fun h => h.map _, fun f => ⟨.failure f, rfl, rfl⟩⟩

/-- To say what was being done leaves a failure a failure. -/
theorem whileDoing_relays {α : Type} (doing : String) (report : α → Report) :
    Relays fun w => whileDoing doing (reporting report w) :=
  ⟨fun h => (h.map _).map _, fun f => ⟨.during doing (.failure f), rfl, rfl⟩⟩

namespace Session

/-- A command that leaves one piece of work to an operator. -/
theorem job_prepares {post : Workflow (Except Failure TxHash) → Workflow (Except Problem Report)}
    (relays : Relays post) (job : Job) {account : Address} (signer : job.account? = some account)
    (asks : .endpoint ∈ command.needs)
    (limit : job.preparation.toList.length + 1 ≤ command.submissions)
    (met : Need.endpoint.isMet s files = true → s.hasKey files account = true →
      s.Meets files command.needs) :
    (s.remotely s.keystore fun op => post (job.run op)).Prepares command s inputs files := by
  apply remotely_prepares asks
  · exact fun op => relays.few ((job.run_handsAtMost op).mono limit)
  · intro reached
    rcases signs_or_stops signer s files with known | ⟨f, told, stops⟩
    · exact .inl (met reached known)
    · rw [stops]
      obtain ⟨p, behind, fails⟩ := relays.fails f
      exact .inr ⟨p, f, behind, told, fails⟩

end Session

theorem Need.key_isMet {written : String} {account : Address}
    (parsed : Address.parse written = .ok account) (known : s.hasKey files account = true) :
    (Need.key written).isMet s files = true := by
  rw [Need.isMet, parsed]
  exact known

namespace Session

variable (s : Session) (inputs : Inputs) (files : Files)

theorem newKey_prepares : (s.newKey inputs).Prepares .newKey s inputs files := by
  apply withWallet_prepares
  intro files'
  refine ((Wallet.ofRecords files').generate_effect s.keystore inputs.fresh inputs.secret).mono ?_
  rintro account files'' ⟨rfl, adds⟩
  exact ⟨adds, meets_nil⟩

theorem importKey_prepares (path : Option String) :
    (s.importKey inputs path).Prepares (.importKey path) s inputs files := by
  refine (keyInput_reads inputs path files).prepares fun text _ => ?_
  dsimp only
  split
  · exact Action.throw_prepares _ _
  · apply withWallet_prepares
    intro files'
    refine ((Wallet.ofRecords files').importKey_effect s.keystore inputs.fresh
      ⟨Text.Blank.trimText text⟩).mono ?_
    intro account files'' adds
    exact ⟨⟨account, adds⟩, meets_nil⟩

theorem revealKey_prepares (written : String) :
    (s.revealKey written).Prepares (.revealKey written) s inputs files := by
  refine (addressArgument_reads _ written files).prepares fun account parsed => ?_
  apply withWallet_prepares
  intro files'
  refine .of_same ?_ fun key found => ⟨.refl _ _, ?_⟩
  · rw [Wallet.reveal, Wallet.require_state, Wallet.find_records]
    rfl
  · simp only [needs, meets_cons, meets_nil, and_true]
    exact isOk_of_eq parsed

theorem deleteKey_prepares (written : String) (isCertain : Bool) :
    (s.deleteKey written isCertain).Prepares (.deleteKey written isCertain) s inputs files := by
  refine (addressArgument_reads _ written files).prepares fun account parsed => ?_
  dsimp only
  cases isCertain with
  | false => exact Action.throw_prepares _ _
  | true =>
    apply withWallet_prepares
    intro files'
    refine ((Wallet.ofRecords files').delete_effect s.keystore account).mono ?_
    intro _ files'' removes
    refine ⟨⟨rfl, account, parsed, removes⟩, ?_⟩
    simp only [needs, meets_cons, meets_nil, and_true]
    exact isOk_of_eq parsed

theorem sign_prepares (written message : String) :
    (s.sign written message).Prepares (.sign written message) s inputs files := by
  refine (addressArgument_reads _ written files).prepares fun account parsed => ?_
  apply withWallet_prepares
  intro files'
  refine .of_same ?_ fun text signed => ⟨.refl _ _, ?_⟩
  · rw [Wallet.sign_state, Wallet.find_records]
    rfl
  · obtain ⟨key, secret, found, known⟩ := Wallet.key_of_sign signed
    rw [Wallet.find_fresh, Keystore.Folder.keystore_get] at found
    have usable := hasKey_of found known
    simp only [needs, meets_cons, meets_nil, and_true]
    exact ⟨isOk_of_eq parsed, Need.key_isMet parsed usable⟩

theorem verify_prepares (written signature message : String) :
    (s.verify written signature message).Prepares (.verify written signature message) s inputs
      files := by
  refine (addressArgument_reads _ written files).prepares fun account parsed => ?_
  refine (signatureArgument_reads signature files).prepares fun bytes decoded => ?_
  apply openKeystore_prepares
  intro files' only
  split
  · refine .settled (.refl _ _) ?_
    simp only [needs, meets_cons, meets_nil, and_true]
    exact ⟨isOk_of_eq parsed, isOk_of_eq decoded⟩
  · exact .refused (.refl _ _)

theorem listKeys_prepares (inTokens : Bool) :
    (s.listKeys inTokens).Prepares (.listKeys inTokens) s inputs files := by
  apply openKeystore_prepares
  intro files' only
  have listing (token : Option Address)
      (met : Need.endpoint.isMet s files' = true →
        s.Meets files' (Command.listKeys inTokens).needs) :
      (s.remotely s.keystore fun op => reporting .balances (op.listBalances token)).Prepares
        (.listKeys inTokens) s inputs files' := by
    refine remotely_prepares ?_ ?_ fun reached => .inl (met reached)
    · cases inTokens <;> simp [needs]
    · intro op
      exact (reporting_relays _).few (op.rows_handsAtMost (Operator.balanceRow_handsAtMost token))
  dsimp only
  cases inTokens with
  | false =>
    apply listing
    intro reached
    simp only [needs, meets_cons, meets_nil, and_true]
    exact reached
  | true =>
    have token : (some <$> Action.ofProblem s.config.tokenAddress : Action (Option Address)).Reads
        files' fun _ => s.config.tokenAddress.isOk = true := by
      rw [map_eq_pure_bind]
      refine (Action.Reads.ofProblem fun _ found => found).bind ?_
      intro token configured
      exact .pure (isOk_of_eq configured)
    refine token.prepares fun token configured => listing token fun reached => ?_
    simp only [needs, meets_cons, meets_nil, and_true]
    exact ⟨configured, reached⟩

theorem send_prepares (sender recipient amount : String) :
    (s.send sender recipient amount).Prepares (.send sender recipient amount) s inputs files := by
  refine (addressArgument_reads _ sender files).prepares fun account parsed => ?_
  refine (addressArgument_reads _ recipient files).prepares fun other parsed' => ?_
  refine (amountArgument_reads amount files).prepares fun wei read => ?_
  apply openKeystore_prepares
  intro files' only
  refine job_prepares (reporting_relays .sent) (.send account other wei) rfl (by simp [needs])
    (Nat.le_refl _) fun reached known => ?_
  simp only [needs, meets_cons, meets_nil, and_true]
  exact ⟨isOk_of_eq parsed, isOk_of_eq parsed', isOk_of_eq read, reached,
    Need.key_isMet parsed known⟩

theorem addCollateral_prepares (sender amount : String) (kind : Collateral.Kind) :
    (s.addCollateral sender amount kind).Prepares (.addCollateral sender amount kind) s inputs
      files := by
  refine (addressArgument_reads _ sender files).prepares fun account parsed => ?_
  refine (amountArgument_reads amount files).prepares fun wei read => ?_
  refine (s.target_reads kind files).prepares fun target found => ?_
  obtain ⟨rfl, configured⟩ := found
  apply openKeystore_prepares
  intro files' only
  refine job_prepares (whileDoing_relays _ .sent) (.addCollateral account wei target) rfl
    (by simp [needs]) ?_ fun reached known => ?_
  · cases target <;> exact Nat.le_refl _
  · simp only [needs, meets_append, meets_cons, meets_nil, and_true]
    exact ⟨⟨⟨isOk_of_eq parsed, isOk_of_eq read⟩, configured files' only⟩, reached,
      Need.key_isMet parsed known⟩

theorem withdrawCollateral_prepares (owner amount : String) (kind : Collateral.Kind) :
    (s.withdrawCollateral owner amount kind).Prepares (.withdrawCollateral owner amount kind) s
      inputs files := by
  refine (addressArgument_reads _ owner files).prepares fun account parsed => ?_
  refine (amountArgument_reads amount files).prepares fun wei read => ?_
  refine (s.target_reads kind files).prepares fun target found => ?_
  obtain ⟨rfl, configured⟩ := found
  apply openKeystore_prepares
  intro files' only
  refine job_prepares (whileDoing_relays _ .sent) (.withdrawCollateral account wei target) rfl
    (by simp [needs]) (Nat.le_refl _) fun reached known => ?_
  simp only [needs, meets_append, meets_cons, meets_nil, and_true]
  exact ⟨⟨⟨isOk_of_eq parsed, isOk_of_eq read⟩, configured files' only⟩, reached,
    Need.key_isMet parsed known⟩

theorem sendCollateral_prepares (sender recipient amount : String) :
    (s.sendCollateral sender recipient amount).Prepares (.sendCollateral sender recipient amount) s
      inputs files := by
  refine (addressArgument_reads _ sender files).prepares fun account parsed => ?_
  refine (addressArgument_reads _ recipient files).prepares fun other parsed' => ?_
  refine (amountArgument_reads amount files).prepares fun wei read => ?_
  have token : (Action.ofProblem s.config.tokenAddress).Reads files fun token =>
      s.config.tokenAddress = .ok token := .ofProblem fun _ found => found
  refine token.prepares fun token configured => ?_
  apply openKeystore_prepares
  intro files' only
  refine job_prepares (reporting_relays .sent) (.sendTokens account other wei token) rfl
    (by simp [needs]) (Nat.le_refl _) fun reached known => ?_
  simp only [needs, meets_cons, meets_nil, and_true]
  exact ⟨isOk_of_eq parsed, isOk_of_eq parsed', isOk_of_eq read, isOk_of_eq configured, reached,
    Need.key_isMet parsed known⟩

theorem listCollateral_prepares (kind : Collateral.Kind) :
    (s.listCollateral kind).Prepares (.listCollateral kind) s inputs files := by
  refine (s.target_reads kind files).prepares fun target found => ?_
  obtain ⟨rfl, configured⟩ := found
  apply openKeystore_prepares
  intro files' only
  refine remotely_prepares (by simp [needs]) ?_ fun reached => .inl ?_
  · intro op
    have quiet := Operator.collateralRow_handsAtMost target (Hub.escrow_handsAtMost s.config.hub)
    exact (reporting_relays _).few (op.rows_handsAtMost quiet)
  · simp only [needs, meets_append, meets_cons, meets_nil, and_true]
    exact ⟨configured files' only, reached⟩

theorem showAccount_prepares : s.showAccount.Prepares .showAccount s inputs files := by
  refine (s.accountAddress_reads files).prepares fun contract configured => ?_
  apply openKeystore_prepares
  intro files' only
  refine remotely_prepares (by simp [needs]) ?_ fun reached => .inl ?_
  · intro op
    exact (reporting_relays _).few (Contract.Account.state.ask_handsAtMost contract _)
  · simp only [needs, meets_cons, meets_nil, and_true]
    exact ⟨isOk_of_eq (accountAddress_kept only configured), reached⟩

theorem changeAccount_prepares (signer : String) (change : Change) :
    (s.changeAccount signer change).Prepares (.changeAccount signer change) s inputs files := by
  refine (s.accountAddress_reads files).prepares fun contract configured => ?_
  refine (change.invocation_reads files).prepares fun invocation read => ?_
  obtain ⟨⟨mutation, rfl⟩, arguments⟩ := read
  apply openKeystore_prepares
  intro files' only
  refine (addressArgument_reads _ signer files').prepares fun account parsed => ?_
  refine (s.endpoint_reads files').prepares fun endpoint reached => ?_
  refine Action.Reads.get.prepares ?_
  rintro _ rfl
  have stored : (Action.ofFailure ((s.operator s.keystore files').keyFor account
      change.task)).Reads files' fun key =>
        s.keystore.get files' account.recordName = .ok (some key) := by
    refine .ofFailure fun key found => ?_
    rw [← keyOf_operator]
    exact Operator.keyOf_of_keyFor found
  refine stored.prepares fun key found => ?_
  have few := (Job.changeAccount key contract mutation).run_handsAtMost
    (s.operator s.keystore files')
  refine .ready (by simp [needs]) (.refl _ _) ((reporting_relays .sent).few few) ?_
  cases signed : key.secret with
  | error f =>
    right
    rw [Operator.invoke_unsigned signed]
    obtain ⟨p, behind, fails⟩ := (reporting_relays .sent).fails f
    exact ⟨p, f, behind, KeyText.secret_isReturned signed, fails⟩
  | ok secret =>
    left
    have usable := hasKey_of found signed
    simp only [needs, meets_append, meets_cons, meets_nil, and_true]
    exact ⟨⟨isOk_of_eq (accountAddress_kept only configured), arguments s files'⟩,
      isOk_of_eq parsed, reached, Need.key_isMet parsed usable⟩

/-- Every command comes to what it may come to. -/
theorem perform_prepares (command : Command) :
    (s.perform inputs command).Prepares command s inputs files := by
  cases command with
  | newKey => exact s.newKey_prepares inputs files
  | listKeys inTokens => exact s.listKeys_prepares inputs files inTokens
  | importKey path => exact s.importKey_prepares inputs files path
  | revealKey account => exact s.revealKey_prepares inputs files account
  | deleteKey account isCertain => exact s.deleteKey_prepares inputs files account isCertain
  | sign account message => exact s.sign_prepares inputs files account message
  | verify account signature message =>
    exact s.verify_prepares inputs files account signature message
  | send sender recipient amount => exact s.send_prepares inputs files sender recipient amount
  | addCollateral sender amount kind =>
    exact s.addCollateral_prepares inputs files sender amount kind
  | withdrawCollateral owner amount kind =>
    exact s.withdrawCollateral_prepares inputs files owner amount kind
  | sendCollateral sender recipient amount =>
    exact s.sendCollateral_prepares inputs files sender recipient amount
  | listCollateral kind => exact s.listCollateral_prepares inputs files kind
  | showAccount => exact s.showAccount_prepares inputs files
  | changeAccount signer change => exact s.changeAccount_prepares inputs files signer change

end Session

end Command

end ProviderWallet
