import ProviderWallet.Proofs.ApprovedDeposit
import ProviderWallet.Proofs.Declarations

namespace ProviderWallet

open Contract Workflow

inductive Contract.Account.Mutation where
  | addresses (texts : List String)
  | owner (account : Address)
  | beneficiary (account : Address) (quota expiration : Wei)
  | flag (value : UInt8)
  | proof (task : String) (taskType : UInt8) (proofType content : String)

def Contract.Account.Mutation.invocation : Account.Mutation → Invocation
  | addresses texts => Account.changeAddresses texts
  | owner account => Account.changeOwner account
  | beneficiary account quota expiration => Account.changeBeneficiary account quota expiration
  | flag value => Account.changeFlag value
  | proof task taskType proofType content => Account.submitProof task taskType proofType content

/-- The work of an operator that ends in a transaction. -/
inductive Job where
  | send (sender recipient : Address) (amount : Wei)
  | addCollateral (sender : Address) (amount : Wei) (target : Collateral.Target)
  | withdrawCollateral (owner : Address) (amount : Wei) (target : Collateral.Target)
  | sendTokens (sender recipient : Address) (amount : Wei) (token : Address)
  | changeAccount (key : KeyText) (contract : Address) (mutation : Account.Mutation)

namespace Job

def run (op : Operator) : Job → Workflow (Except Failure TxHash)
  | send sender recipient amount => op.send sender recipient amount
  | addCollateral sender amount target => op.addCollateral sender amount target
  | withdrawCollateral owner amount target => op.withdrawCollateral owner amount target
  | sendTokens sender recipient amount token => op.sendTokens sender recipient amount token
  | changeAccount key contract mutation => op.invoke key contract mutation.invocation none

def payload : Job → Payload
  | send _ recipient amount => ⟨recipient, [], some amount⟩
  | addCollateral sender amount (.token collateral _) =>
    (TokenCollateral.deposit sender amount).payload collateral none
  | addCollateral _ amount (.native collateral account) =>
    (NativeCollateral.deposit account).payload collateral (some amount)
  | withdrawCollateral owner amount (.token collateral _) =>
    (TokenCollateral.withdraw owner amount).payload collateral none
  | withdrawCollateral _ amount (.native collateral account) =>
    (NativeCollateral.withdraw account amount).payload collateral none
  | sendTokens _ recipient amount token => (Token.transfer recipient amount).payload token none
  | changeAccount _ contract mutation => mutation.invocation.payload contract none

/-- The transaction that has to succeed before, if there is one. -/
def preparation : Job → Option Payload
  | addCollateral _ amount (.token collateral token) =>
    some ((Token.approve collateral amount).payload token none)
  | _ => none

end Job

/-- The first bytes of the input tell an approval from a deposit. -/
theorem approve_ne_deposit (spender account : Address) (allowed amount : Wei) :
    (Token.approve spender allowed).input ≠ (TokenCollateral.deposit account amount).input := by
  intro same
  have declared : (Token.approve spender allowed).declaration ∈ Declaration.all := by
    simp [Declaration.all, Token.approve, Invocation.declaration, Abi.Value.ty]
  have declared' : (TokenCollateral.deposit account amount).declaration ∈ Declaration.all := by
    simp [Declaration.all, TokenCollateral.deposit, Invocation.declaration, Abi.Value.ty]
  have names := congrArg Declaration.name (Invocation.declaration_eq declared declared' same)
  simp [Token.approve, TokenCollateral.deposit, Invocation.declaration] at names

/-- The own transaction of a piece of work is not the one that has to succeed before. -/
theorem Job.payload_ne_preparation (job : Job) : job.payload ∉ job.preparation.toList := by
  cases job with
  | addCollateral sender amount target =>
    cases target with
    | token collateral token =>
      intro mem
      rw [preparation, Option.toList_some, List.mem_singleton] at mem
      exact approve_ne_deposit collateral sender amount amount (congrArg Payload.input mem.symm)
    | native collateral account => simp [preparation]
  | _ => simp [preparation]

/-- If the result is a failure after which the work may be done again, then nothing was handed
over but, perhaps, what has to succeed before. -/
def Repeatable (preparation : Option Payload) (acts : List Act)
    (result : Except Failure TxHash) : Prop :=
  ∀ f, result = .error f → f.isRetryable = true →
    (handed acts).map Transaction.payload <+: preparation.toList

/-- What has to succeed before is handed over first, then the own transaction; and the work is
repeatable. -/
structure AsPlanned (preparation : Option Payload) (own : Payload) (acts : List Act)
    (result : Except Failure TxHash) : Prop where
  hands : (handed acts).map Transaction.payload <+: preparation.toList ++ [own]
  repeatable : Repeatable preparation acts result

theorem AsPlanned.nothing (preparation : Option Payload) (own : Payload)
    (result : Except Failure TxHash) : AsPlanned preparation own [] result :=
  ⟨List.nil_prefix, fun _ _ _ => List.nil_prefix⟩

/-- A submission of its own has nothing that has to succeed before. -/
theorem Submission.Handing.asPlanned {s : Submission} {acts : List Act}
    {result : Except Failure TxHash} (h : s.Handing acts result) :
    AsPlanned none s.payload acts result := by
  refine ⟨?_, ?_⟩
  · rcases h.handed_payload with none | ⟨tx, one, payload⟩
    · simp [none]
    · simp [one, payload]
  · rintro f rfl retryable
    rw [h.nothing_of_retryable retryable]
    exact List.nil_prefix

/-- A deposit has its approval, which has to succeed before. -/
theorem Depositing.asPlanned {w : Waiter} {approval deposit : Submission} {acts : List Act}
    {result : Except Failure TxHash} (h : Depositing w approval deposit acts result) :
    AsPlanned (some approval.payload) deposit.payload acts result := by
  cases h with
  | unapproved first =>
    refine ⟨first.asPlanned.hands.trans (by simp), ?_⟩
    rintro f ⟨⟩ retryable
    rw [first.nothing_of_retryable retryable]
    exact List.nil_prefix
  | unconfirmed tx hash payload waiting =>
    refine ⟨by simp [waiting.handed_eq_nil, payload], ?_⟩
    rintro f ⟨⟩ retryable
    simp [waiting.handed_eq_nil, payload]
  | confirmed tx hash n payload second =>
    refine ⟨by simpa [Act.success, payload] using second.asPlanned.hands, ?_⟩
    rintro f rfl retryable
    rw [second.nothing_of_retryable retryable]
    simp [Act.success, payload]

/-- Work that needs a key hands nothing over without it. -/
theorem Operator.withKey_asPlanned {op : Operator} {account : Address} {task : String}
    {preparation : Option Payload} {own : Payload}
    {f : KeyText → Workflow (Except Failure TxHash)}
    (h : ∀ key, (f key).Does (AsPlanned preparation own)) :
    (op.withKey account task f).Does (AsPlanned preparation own) := by
  unfold withKey
  split
  · exact does_done (.nothing preparation own _)
  · exact h _

theorem Submission.submit_asPlanned (s : Submission) (timeLimit : Millis) :
    (s.submit timeLimit).Does (AsPlanned none s.payload) :=
  (s.submit_does timeLimit).mono fun _ _ h => h.asPlanned

/-- All work goes as planned. -/
theorem Job.run_asPlanned (op : Operator) (job : Job) :
    (job.run op).Does (AsPlanned job.preparation job.payload) := by
  cases job with
  | send sender recipient amount =>
    exact Operator.withKey_asPlanned fun key => Submission.submit_asPlanned _ _
  | addCollateral sender amount target =>
    refine Operator.withKey_asPlanned fun key => ?_
    cases target with
    | token collateral token =>
      exact (op.depositTokens_does key sender amount collateral token).mono
        fun _ _ h => h.asPlanned
    | native collateral account => exact Submission.submit_asPlanned _ _
  | withdrawCollateral owner amount target =>
    refine Operator.withKey_asPlanned fun key => ?_
    cases target <;> exact Submission.submit_asPlanned _ _
  | sendTokens sender recipient amount token =>
    exact Operator.withKey_asPlanned fun key => Submission.submit_asPlanned _ _
  | changeAccount key contract mutation => exact Submission.submit_asPlanned _ _

theorem Job.run_repeatable (op : Operator) (job : Job) :
    (job.run op).Does (Repeatable job.preparation) :=
  (job.run_asPlanned op).mono fun _ _ h => h.repeatable

/-- Whatever the node answers and however long it takes: after a failure that is retryable the
work's own transaction was not handed over, only perhaps the one that has to succeed before; and
once it was handed over, no failure is retryable. -/
theorem retryable_before_handing (op : Operator) (job : Job) (outside : Outside) :
    let run := (job.run op).play outside
    let payloads := (handed run.2.acts).map Transaction.payload
    (∀ f, run.1 = .error f → f.isRetryable = true →
        payloads <+: job.preparation.toList ∧ job.payload ∉ payloads) ∧
      (job.payload ∈ payloads → ∀ f, run.1 = .error f → f.isRetryable = false) := by
  intro run payloads
  have safe : Repeatable job.preparation run.2.acts run.1 := (job.run_repeatable op).play outside
  have own (f : Failure) (failed : run.1 = .error f) (retryable : f.isRetryable = true) :
      job.payload ∉ payloads := fun mem =>
    job.payload_ne_preparation ((safe f failed retryable).subset mem)
  refine ⟨fun f failed retryable => ⟨safe f failed retryable, own f failed retryable⟩, ?_⟩
  intro mem f failed
  cases retryable : f.isRetryable with
  | false => rfl
  | true => exact absurd mem (own f failed retryable)

end ProviderWallet
