import ProviderWallet.Proofs.CommandRuns
import ProviderWallet.Proofs.RetrySafety
import ProviderWallet.Proofs.ShownFiles

namespace ProviderWallet

open Storage (Files)
open Storage.Files (OnlyFolders KeepsFile)
open Text

/-- Something without which a command does not ask anyone. -/
inductive Command.Need where
  | address (written : String)
  | amount (written : String)
  | quantity (written : String)
  | signature (written : String)
  | token
  | tokenCollateral
  | collateral
  | account
  /-- The chain has an endpoint, and messages can be sent there. -/
  | endpoint
  /-- There is a record for an address, and it holds a key. -/
  | key (written : String)
  deriving DecidableEq, Repr

open Command (Need)

def Collateral.Target.kind : Collateral.Target → Collateral.Kind
  | token .. => .token
  | native .. => .native

/-- What collateral of a kind needs of the configuration. -/
def Collateral.Kind.needs : Collateral.Kind → List Need
  | token => [.tokenCollateral, .token]
  | native => [.collateral, .account]

namespace Command

def Session.hasKey (s : Session) (files : Files) (account : Address) : Bool :=
  match s.keystore.get files account.recordName with
  | .ok (some key) => key.secret.isOk
  | _ => false

/-- A key that was read and can sign is there. -/
theorem Session.hasKey_of {s : Session} {files : Files} {account : Address} {key : KeyText}
    {secret : SecretKey} (found : s.keystore.get files account.recordName = .ok (some key))
    (known : key.secret = .ok secret) : s.hasKey files account = true := by
  rw [hasKey, found]
  dsimp only
  rw [known]
  rfl

def Need.isMet (s : Session) (files : Files) : Need → Bool
  | address written => (Address.parse written).isOk
  | amount written => (Amount.parse written).isOk
  | quantity written => (Quantity.read (Blank.trimText written)).isOk
  | signature written =>
    (Hex.decodeText (String.ofList (Session.withoutMarks (Blank.trim written.toList)))).isOk
  | token => s.config.tokenAddress.isOk
  | tokenCollateral => s.config.tokenCollateralAddress.isOk
  | collateral => s.config.collateralAddress.isOk
  | account => (s.config.accountAddress s.folder files).isOk
  | endpoint =>
    match s.config.endpoint s.chain with
    | .ok url => (Network.endpointOf url).isOk
    | .error _ => false
  | key written =>
    match Address.parse written with
    | .ok signer => s.hasKey files signer
    | .error _ => false

def Session.Meets (s : Session) (files : Files) (needs : List Need) : Prop :=
  ∀ need ∈ needs, need.isMet s files = true

namespace Session

variable {s : Session} {files : Files} {need : Need} {needs more : List Need}

theorem Meets.not_missing (met : s.Meets files needs) (among : need ∈ needs)
    (missing : need.isMet s files = false) : False := by
  rw [met need among] at missing
  cases missing

@[simp] theorem meets_nil : s.Meets files [] :=
  fun _ among => nomatch among

@[simp] theorem meets_cons :
    s.Meets files (need :: needs) ↔ need.isMet s files = true ∧ s.Meets files needs :=
  List.forall_mem_cons

@[simp] theorem meets_append :
    s.Meets files (needs ++ more) ↔ s.Meets files needs ∧ s.Meets files more :=
  List.forall_mem_append

end Session

def Change.needs : Change → List Need
  | owner account => [.address account]
  | beneficiary account quota expiration =>
    [.address account, .quantity quota, .quantity expiration]
  | addresses _ | flag _ | proof .. => []

def needs : Command → List Need
  | newKey | importKey _ => []
  | listKeys false => [.endpoint]
  | listKeys true => [.token, .endpoint]
  | revealKey account | deleteKey account _ => [.address account]
  | sign account _ => [.address account, .key account]
  | verify account signature _ => [.address account, .signature signature]
  | send sender recipient amount =>
    [.address sender, .address recipient, .amount amount, .endpoint, .key sender]
  | addCollateral sender amount kind =>
    [.address sender, .amount amount] ++ kind.needs ++ [.endpoint, .key sender]
  | withdrawCollateral owner amount kind =>
    [.address owner, .amount amount] ++ kind.needs ++ [.endpoint, .key owner]
  | sendCollateral sender recipient amount =>
    [.address sender, .address recipient, .amount amount, .token, .endpoint, .key sender]
  | listCollateral kind => kind.needs ++ [.endpoint]
  | showAccount => [.account, .endpoint]
  | changeAccount signer change =>
    [.account] ++ change.needs ++ [.address signer, .endpoint, .key signer]

namespace Action

variable {α β : Type} {m : Action α} {f : α → Action β} {files files' : Files}
  {fact : α → Prop} {fact' : β → Prop}

/-- A step that looks at the files and leaves them as they are. What it finds is as stated. -/
structure Reads (m : Action α) (files : Files) (fact : α → Prop) : Prop where
  kept : (m.run.run files).2 = files
  known : ∀ a, (m.run.run files).1 = .ok a → fact a

namespace Reads

/-- A step that looks is refused or finds what it should, and the files are as they were. -/
theorem cases (h : m.Reads files fact) :
    (∃ p, m.run.run files = (.error p, files)) ∨
      ∃ a, m.run.run files = (.ok a, files) ∧ fact a := by
  obtain ⟨kept, known⟩ := h
  cases result : (m.run.run files).1 with
  | error p => exact .inl ⟨p, Prod.ext result kept⟩
  | ok a => exact .inr ⟨a, Prod.ext result kept, known a result⟩

theorem pure {a : α} (h : fact a) : (pure a : Action α).Reads files fact := by
  refine ⟨rfl, ?_⟩
  intro b same
  cases same
  exact h

theorem throw (p : Problem) : (throw p : Action α).Reads files fact :=
  ⟨rfl, fun _ found => nomatch found⟩

theorem ofProblem {result : Except Problem α} (h : ∀ a, result = .ok a → fact a) :
    (Action.ofProblem result).Reads files fact := by
  cases result with
  | error p => exact .throw p
  | ok a => exact .pure (h a rfl)

theorem ofFailure {result : Except Failure α} (h : ∀ a, result = .ok a → fact a) :
    (Action.ofFailure result).Reads files fact := by
  cases result with
  | error f => exact .throw (.failure f)
  | ok a => exact .pure (h a rfl)

/-- One look after another is a look. -/
theorem bind (h : m.Reads files fact) (rest : ∀ a, fact a → (f a).Reads files fact') :
    (m >>= f).Reads files fact' := by
  rcases h.cases with ⟨p, stops⟩ | ⟨a, goes, known⟩
  · have stops' := run_bind_error stops f
    exact ⟨by rw [stops'], fun _ found => by rw [stops'] at found; cases found⟩
  · have goes' := run_bind_ok goes f
    obtain ⟨kept, facts⟩ := rest a known
    exact ⟨by rw [goes', kept], fun b found => facts b (by rwa [goes'] at found)⟩

theorem get : (MonadState.get : Action Files).Reads files (files = ·) :=
  ⟨rfl, fun _ found => Except.ok.inj found⟩

end Reads

end Action

theorem isOk_of_eq {ε α : Type} {result : Except ε α} {a : α} (h : result = .ok a) :
    result.isOk = true := by
  rw [h]
  rfl

theorem whileDoing_ok {α : Type} {doing : String} {result : Except Failure α} {a : α}
    (h : Problem.whileDoing doing (Problem.ofFailure result) = .ok a) : result = .ok a := by
  cases result with
  | error f => cases h
  | ok b =>
    cases h
    rfl

variable {s : Session} {files files' : Files}

theorem addressArgument_reads (name written : String) (files : Files) :
    (addressArgument name written).Reads files fun account => Address.parse written = .ok account :=
  .ofProblem fun _ parsed => whileDoing_ok parsed

theorem amountArgument_reads (written : String) (files : Files) :
    (amountArgument written).Reads files fun amount => Amount.parse written = .ok amount :=
  .ofFailure fun _ parsed => parsed

theorem quantityArgument_reads (name written : String) (files : Files) :
    (quantityArgument name written).Reads files fun n =>
      Quantity.read (Blank.trimText written) = .ok n := by
  unfold quantityArgument
  cases Quantity.read (Blank.trimText written) with
  | error fault => exact .throw _
  | ok n => exact .pure rfl

namespace Session

theorem signatureArgument_reads (signature : String) (files : Files) :
    (signatureArgument signature).Reads files fun bytes =>
      Hex.decodeText (String.ofList (withoutMarks (Blank.trim signature.toList))) = .ok bytes := by
  unfold signatureArgument
  dsimp only
  cases Hex.decodeText (String.ofList (withoutMarks (Blank.trim signature.toList))) with
  | error fault => exact .throw _
  | ok bytes => exact .pure rfl

theorem accountAddress_reads (s : Session) (files : Files) :
    s.accountAddress.Reads files fun account =>
      s.config.accountAddress s.folder files = .ok account := by
  refine Action.Reads.get.bind ?_
  rintro _ rfl
  exact .ofProblem fun _ found => found

theorem endpoint_reads (s : Session) (files : Files) :
    s.endpoint.Reads files fun _ => Need.endpoint.isMet s files = true := by
  refine (Action.Reads.ofProblem fun _ found => found).bind ?_
  intro url named
  refine .ofFailure ?_
  intro endpoint read
  rw [Need.isMet, named]
  exact isOk_of_eq read

/-- The address of the provider account is still found when folders came to be. -/
theorem accountAddress_kept (only : OnlyFolders files files') {account : Address}
    (found : s.config.accountAddress s.folder files = .ok account) :
    s.config.accountAddress s.folder files' = .ok account := by
  unfold Config.accountAddress at found ⊢
  split
  · rwa [if_pos ‹_›] at found
  · rw [if_neg ‹_›] at found
    dsimp only at found ⊢
    cases read : files.readText (Storage.Path.join s.folder "account") with
    | error fault =>
      rw [read] at found
      cases found
    | ok content =>
      have kept := (only.keepsFile (Storage.Path.join s.folder "account")).readText read
      rw [kept]
      rw [read] at found
      exact found

/-- A target was configured if it is found, and still is when folders came to be. -/
theorem target_reads (s : Session) (kind : Collateral.Kind) (files : Files) :
    (s.target kind).Reads files fun target => target.kind = kind ∧
      ∀ files', OnlyFolders files files' → s.Meets files' kind.needs := by
  cases kind with
  | token =>
    refine (Action.Reads.ofProblem fun _ found => found).bind ?_
    intro collateral configured
    refine (Action.Reads.ofProblem fun _ found => found).bind ?_
    intro token configured'
    refine .pure ⟨rfl, fun files' only => ?_⟩
    simp [Collateral.Kind.needs, Need.isMet, isOk_of_eq configured, isOk_of_eq configured']
  | native =>
    refine (Action.Reads.ofProblem fun _ found => found).bind ?_
    intro collateral configured
    refine (s.accountAddress_reads files).bind ?_
    intro account configured'
    refine .pure ⟨rfl, fun files' only => ?_⟩
    have kept := accountAddress_kept only configured'
    simp [Collateral.Kind.needs, Need.isMet, isOk_of_eq configured, isOk_of_eq kept]

/-- Whether or not the keystore can be opened, nothing but folders comes to be. -/
theorem openKeystore_cases (s : Session) (files : Files) : ∃ files', OnlyFolders files files' ∧
    ((∃ p, s.openKeystore.run.run files = (.error p, files')) ∨
      s.openKeystore.run.run files = (.ok s.keystore, files')) := by
  cases prepared : Keystore.Folder.prepare (s.config.keystorePath s.folder) files with
  | error f => exact ⟨files, .refl files, .inl ⟨_, openKeystore_of_error prepared⟩⟩
  | ok files' =>
    refine ⟨files', ?_, .inr (openKeystore_of_ok prepared)⟩
    cases created : files.createPrivate (s.config.keystorePath s.folder) with
    | error fault =>
      rw [Keystore.Folder.prepare, created] at prepared
      cases prepared
    | ok made =>
      rw [Keystore.Folder.prepare, created] at prepared
      cases prepared
      exact Files.createPrivate_ok created

end Session

theorem Session.keyInput_reads (inputs : Inputs) (path : Option String) (files : Files) :
    (Session.keyInput inputs path).Reads files fun _ => True := by
  unfold Session.keyInput
  cases path with
  | some path =>
    refine Action.Reads.get.bind ?_
    rintro _ rfl
    split
    · exact .pure trivial
    · exact .throw _
  | none =>
    dsimp only
    split
    · exact .pure trivial
    · exact .throw _

/-- A change that can be read calls a function of the account, and needs nothing more. -/
theorem Change.invocation_reads (change : Change) (files : Files) :
    change.invocation.Reads files fun invocation =>
      (∃ mutation : Contract.Account.Mutation, invocation = mutation.invocation) ∧
        ∀ (s : Session) files', s.Meets files' change.needs := by
  cases change with
  | owner account =>
    refine (addressArgument_reads _ account files).bind ?_
    intro owner parsed
    refine .pure ⟨⟨.owner owner, rfl⟩, ?_⟩
    simp [Change.needs, Need.isMet, isOk_of_eq parsed]
  | beneficiary account quota expiration =>
    refine (addressArgument_reads _ account files).bind ?_
    intro beneficiary parsed
    refine (quantityArgument_reads _ quota files).bind ?_
    intro most read
    refine (quantityArgument_reads _ expiration files).bind ?_
    intro last read'
    refine .pure ⟨⟨.beneficiary beneficiary most last, rfl⟩, ?_⟩
    simp [Change.needs, Need.isMet, isOk_of_eq parsed, isOk_of_eq read, isOk_of_eq read']
  | addresses texts => exact .pure ⟨⟨.addresses texts, rfl⟩, by simp [Change.needs]⟩
  | flag value => exact .pure ⟨⟨.flag value, rfl⟩, by simp [Change.needs]⟩
  | proof task taskType proofType content =>
    exact .pure ⟨⟨.proof task taskType proofType content, rfl⟩, by simp [Change.needs]⟩

/-- Loading the configuration makes folders, also when it fails. -/
theorem Session.load_only (env : Environment) (chain : Option String) (files : Files) :
    OnlyFolders files ((Session.load env chain).run.run files).2 := by
  have only : OnlyFolders files (Config.load env files).2 := by
    unfold Config.load
    split
    · exact .refl files
    · rename_i folder named
      cases created : files.createPrivate folder with
      | error fault =>
        simp only [Config.prepare, created]
        exact .refl files
      | ok files' =>
        simp only [Config.prepare, created]
        exact Files.createPrivate_ok created
  generalize loaded : Config.load env files = outcome at only
  obtain ⟨result, files'⟩ := outcome
  cases result with
  | error p =>
    rw [Session.load, Action.run_of_error loaded]
    exact only
  | ok found =>
    obtain ⟨folder, config⟩ := found
    rw [Session.load, Action.run_of_ok loaded]
    exact only

end Command

end ProviderWallet
