import ProviderWallet.Proofs.AbiRoundTrip
import ProviderWallet.Proofs.Declarations
import ProviderWallet.Proofs.SignerIdentity

namespace ProviderWallet

open Contract Workflow

inductive Contract.Mutation where
  | nativeDeposit (account : Address) (amount : Wei)
  | nativeWithdraw (account : Address) (amount : Wei)
  | tokenDeposit (account : Address) (amount : Wei)
  | tokenWithdraw (account : Address) (amount : Wei)
  | approve (spender : Address) (amount : Wei)
  | transfer (recipient : Address) (amount : Wei)
  | provider (mutation : Account.Mutation)

namespace Contract.Mutation

def perform (op : Operator) (key : KeyText) (contract : Address) :
    Mutation → Workflow (Except Failure TxHash)
  | nativeDeposit account amount =>
    op.invoke key contract (NativeCollateral.deposit account) (some amount)
  | nativeWithdraw account amount =>
    op.invoke key contract (NativeCollateral.withdraw account amount) none
  | tokenDeposit account amount =>
    op.invoke key contract (TokenCollateral.deposit account amount) none
  | tokenWithdraw account amount =>
    op.invoke key contract (TokenCollateral.withdraw account amount) none
  | approve spender amount => op.invoke key contract (Token.approve spender amount) none
  | transfer recipient amount => op.invoke key contract (Token.transfer recipient amount) none
  | provider mutation => op.invoke key contract mutation.invocation none

def declaration : Mutation → Declaration
  | nativeDeposit .. => ⟨"deposit", [.address]⟩
  | nativeWithdraw .. | tokenWithdraw .. => ⟨"withdraw", [.address, .uint256]⟩
  | tokenDeposit .. => ⟨"deposit", [.address, .uint256]⟩
  | approve .. => ⟨"approve", [.address, .uint256]⟩
  | transfer .. => ⟨"transfer", [.address, .uint256]⟩
  | provider (.addresses _) => ⟨"changeMultiaddrs", [.texts]⟩
  | provider (.owner _) => ⟨"changeOwnerAddress", [.address]⟩
  | provider (.beneficiary ..) => ⟨"changeBeneficiary", [.address, .uint256, .uint256]⟩
  | provider (.flag _) => ⟨"changeUbiFlag", [.uint8]⟩
  | provider (.proof ..) => ⟨"submitUBIProof", [.text, .uint8, .text, .text]⟩

def arguments : Mutation → List Abi.Value
  | nativeDeposit account _ => [.address account]
  | nativeWithdraw account amount | tokenDeposit account amount | tokenWithdraw account amount =>
    [.address account, .uint256 amount]
  | approve spender amount => [.address spender, .uint256 amount]
  | transfer recipient amount => [.address recipient, .uint256 amount]
  | provider (.addresses texts) => [.texts texts]
  | provider (.owner account) => [.address account]
  | provider (.beneficiary account quota expiration) =>
    [.address account, .uint256 quota, .uint256 expiration]
  | provider (.flag value) => [.uint8 value]
  | provider (.proof task taskType proofType content) =>
    [.text task, .uint8 taskType, .text proofType, .text content]

def value : Mutation → Option Wei
  | nativeDeposit _ amount => some amount
  | _ => none

def input (c : Mutation) : Bytes :=
  c.declaration.selector ++ Abi.encode c.arguments

/-- The arguments fit into the binary form: no offset in it takes more than a word. -/
def Fits (c : Mutation) : Prop :=
  (Abi.encode c.arguments).length < Nat.pow 2 256

def invocation (c : Mutation) : Invocation :=
  ⟨c.declaration.name, c.arguments⟩

theorem declaration_mem (c : Mutation) : c.declaration ∈ Declaration.all := by
  cases c with
  | provider mutation => cases mutation <;> simp [declaration, Declaration.all]
  | _ => simp [declaration, Declaration.all]

theorem parameters_eq (c : Mutation) : c.declaration.parameters = c.arguments.map Abi.Value.ty := by
  cases c with
  | provider mutation => cases mutation <;> rfl
  | _ => rfl

theorem perform_eq (op : Operator) (key : KeyText) (contract : Address) (c : Mutation) :
    c.perform op key contract = op.invoke key contract c.invocation c.value := by
  cases c with
  | provider mutation => cases mutation <;> rfl
  | _ => rfl

theorem invocation_declaration (c : Mutation) : c.invocation.declaration = c.declaration := by
  rw [Invocation.declaration, invocation, ← parameters_eq]

theorem invocation_input (c : Mutation) : c.invocation.input = c.input := by
  rw [Invocation.input, Invocation.selector_eq, invocation_declaration]
  rfl

/-- A call goes to its contract, with its input and with what is paid along with it. -/
theorem perform_does (op : Operator) (key : KeyText) (contract : Address) (c : Mutation) :
    (c.perform op key contract).Does fun acts _ =>
      ∀ tx ∈ handed acts, tx.payload = ⟨contract, c.input, c.value⟩ := by
  rw [perform_eq, ← invocation_input]
  refine (Submission.submit_does _ op.timeLimit).mono ?_
  intro acts result handing tx among
  rcases handing.handed_payload with none | ⟨only, one, payload⟩
  · simp [none] at among
  · rw [one, List.mem_singleton] at among
    rw [among, payload]
    rfl

/-- After the first four bytes of the input stand the arguments. -/
theorem decode_input {c : Mutation} (fits : c.Fits) :
    Abi.decode c.declaration.parameters (c.input.drop 4) = some c.arguments := by
  have read := (Abi.decode_reads fits).whole []
  rw [List.append_nil] at read
  rw [input, List.drop_left' (Declaration.length_selector c.declaration_mem), parameters_eq, read]

/-- Two calls with the same input call the same function with the same arguments. -/
theorem eq_of_input_eq {c d : Mutation} (hc : c.Fits) (hd : d.Fits) (same : c.input = d.input) :
    c.declaration = d.declaration ∧ c.arguments = d.arguments := by
  have declaration : c.declaration = d.declaration := by
    have h : c.invocation.input = d.invocation.input := by
      rw [invocation_input, invocation_input, same]
    rw [← invocation_declaration, ← invocation_declaration]
    refine Invocation.declaration_eq ?_ ?_ h
    · rw [invocation_declaration]
      exact c.declaration_mem
    · rw [invocation_declaration]
      exact d.declaration_mem
  refine ⟨declaration, ?_⟩
  have read := decode_input hc
  rw [declaration, same, decode_input hd] at read
  exact (Option.some.inj read).symm

end Contract.Mutation

/-- The calls that a piece of work consists of, each with its contract. A payment is no call. -/
def Job.mutations : Job → List (Address × Mutation)
  | send .. => []
  | addCollateral sender amount (.token collateral token) =>
    [(token, .approve collateral amount), (collateral, .tokenDeposit sender amount)]
  | addCollateral _ amount (.native collateral account) =>
    [(collateral, .nativeDeposit account amount)]
  | withdrawCollateral owner amount (.token collateral _) =>
    [(collateral, .tokenWithdraw owner amount)]
  | withdrawCollateral _ amount (.native collateral account) =>
    [(collateral, .nativeWithdraw account amount)]
  | sendTokens _ recipient amount token => [(token, .transfer recipient amount)]
  | changeAccount _ contract mutation => [(contract, .provider mutation)]

/-- Whatever the work is, it hands over its calls in their order, or a payment. -/
theorem Job.run_hands (op : Operator) (job : Job) (calls : job.mutations ≠ []) :
    (job.run op).Does fun acts _ => (handed acts).map Transaction.payload <+:
      job.mutations.map fun (contract, m) => ⟨contract, m.input, m.value⟩ := by
  have planned : job.preparation.toList ++ [job.payload] =
      job.mutations.map fun (contract, m) => ⟨contract, m.invocation.input, m.value⟩ := by
    cases job with
    | send sender recipient amount => contradiction
    | addCollateral sender amount target => cases target <;> rfl
    | withdrawCollateral owner amount target => cases target <;> rfl
    | sendTokens sender recipient amount token => rfl
    | changeAccount key contract mutation => cases mutation <;> rfl
  simp only [Contract.Mutation.invocation_input] at planned
  refine (job.run_asPlanned op).mono ?_
  intro acts result h
  rw [← planned]
  exact h.hands

/-- Whoever calls a function that changes a contract, with whatever arguments: the transaction goes
to that contract, its input is the selector of the declared function and the arguments in binary
form, and only a deposit of the chain's own currency pays something. The arguments are read back
from the input as they were, so that no two different calls share one. -/
theorem call_data_carries_arguments (op : Operator) (key : KeyText) (contract : Address)
    (call : Contract.Mutation) (fits : call.Fits) :
    (∀ outside, ∀ tx ∈ handed ((call.perform op key contract).play outside).2.acts,
        tx.recipient = contract ∧
          tx.input = call.declaration.selector ++ Abi.encode call.arguments ∧
          tx.value = call.value) ∧
      Abi.decode call.declaration.parameters
        ((call.declaration.selector ++ Abi.encode call.arguments).drop 4) = some call.arguments ∧
      ∀ other : Contract.Mutation, other.Fits → call.input = other.input →
        call.declaration.signature = other.declaration.signature ∧
          call.arguments = other.arguments := by
  refine ⟨?_, call.decode_input fits, ?_⟩
  · intro outside tx among
    have payload := (call.perform_does op key contract).play outside tx among
    exact ⟨congrArg Payload.recipient payload, congrArg Payload.input payload,
      congrArg Payload.value payload⟩
  · intro other fits' same
    obtain ⟨declaration, arguments⟩ := Contract.Mutation.eq_of_input_eq fits fits' same
    exact ⟨congrArg Contract.Declaration.signature declaration, arguments⟩

/-- A list of two texts, one of them empty, is handed over to the contract of an account and read
back from what was handed over. -/
theorem addresses_carried :
    let call : Contract.Mutation := .provider (.addresses ["/ip4/10.0.0.1/tcp/9085", ""])
    let secret : SecretKey := ⟨1, by decide, by decide⟩
    let op := Operator.ofWallet Keystore.memory (Wallet.keeping secret secret.address) .standard 1000
    call.Fits ∧
      ∃ tx ∈ handed ((call.perform op ⟨secret.text⟩ ⟨7⟩).play obliging).2.acts,
        tx.recipient = ⟨7⟩ ∧ tx.value = none ∧
          Abi.decode [.texts] (tx.input.drop 4) =
            some [.texts ["/ip4/10.0.0.1/tcp/9085", ""]] := by
  intro call secret op
  have fits : call.Fits := by
    unfold Contract.Mutation.Fits
    decide +kernel
  obtain ⟨carried, read, -⟩ := call_data_carries_arguments op ⟨secret.text⟩ ⟨7⟩ call fits
  have known : (Submission.ofInvocation ⟨secret.text⟩ ⟨7⟩ call.invocation none).key.secret =
      .ok secret := secret.secret_text
  have within : op.timeLimit ≤ Millis.last := by decide
  obtain ⟨tx, sent⟩ := Submission.submit_obliging known within
  have among : tx ∈ handed ((call.perform op ⟨secret.text⟩ ⟨7⟩).play obliging).2.acts := by
    rw [handed_acts, call.perform_eq]
    refine List.mem_map.mpr ⟨(secret, tx), ?_, rfl⟩
    exact sent ▸ List.mem_singleton_self _
  obtain ⟨recipient, input, value⟩ := carried obliging tx among
  exact ⟨fits, tx, among, recipient, value, by rw [input]; exact read⟩

end ProviderWallet
