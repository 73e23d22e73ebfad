import ProviderWallet.Hub.Lookup
import ProviderWallet.Network
import ProviderWallet.Proofs.ContractViews
import ProviderWallet.Proofs.SignedTransaction

namespace ProviderWallet

open Contract Workflow

namespace Workflow

variable {α β : Type} {w : Workflow α} {m n : Nat}

def HandsAtMost (n : Nat) (w : Workflow α) : Prop :=
  w.Yields fun trace _ => trace.sent.length ≤ n

theorem handsAtMost_done (n : Nat) (a : α) : (done a).HandsAtMost n :=
  yields_done (Nat.zero_le n)

theorem handsAtMost_request {q : Request} {next : q.Answer → Workflow α}
    (other : q.sending? = none) (h : ∀ answer, (next answer).HandsAtMost n) :
    (request q next).HandsAtMost n := by
  apply yields_request
  intro answer
  refine Yields.mono (h answer) ?_
  intro trace a few
  simpa [sent_cons, other] using few

theorem HandsAtMost.mono (h : w.HandsAtMost m) (le : m ≤ n) : w.HandsAtMost n :=
  Yields.mono h fun _ _ few => Nat.le_trans few le

/-- One piece of work after another hands over as many transactions as both together. -/
theorem HandsAtMost.bind {f : α → Workflow β} (h : w.HandsAtMost m)
    (rest : ∀ a, (f a).HandsAtMost n) : (w.bind f).HandsAtMost (m + n) := by
  refine Yields.bind h ?_
  intro first a few
  refine Yields.mono (rest a) ?_
  intro trace b few'
  rw [sent_append, List.length_append]
  omega

theorem HandsAtMost.bind_zero {f : α → Workflow β} (h : w.HandsAtMost 0)
    (rest : ∀ a, (f a).HandsAtMost n) : (w.bind f).HandsAtMost n :=
  (h.bind rest).mono (by omega)

/-- What is done with the result hands nothing over. -/
theorem HandsAtMost.map (h : w.HandsAtMost n) (f : α → β) :
    (w.bind fun a => done (f a)).HandsAtMost n :=
  h.bind fun a => handsAtMost_done 0 (f a)

theorem handsAtMost_mapM {f : α → Workflow β} (h : ∀ a, (f a).HandsAtMost 0) (as : List α) :
    (as.mapM f).HandsAtMost 0 := by
  induction as with
  | nil => exact handsAtMost_done 0 []
  | cons a as ih =>
    rw [List.mapM_cons]
    exact (h a).bind_zero fun b => ih.map fun bs => b :: bs

end Workflow

theorem Contract.Invocation.ask_handsAtMost {α : Type} (i : Invocation) (contract : Address)
    (readAnswer? : Bytes → Option α) : (i.ask contract readAnswer?).HandsAtMost 0 := by
  refine (i.ask_sent contract readAnswer?).mono ?_
  intro trace a nothing
  simp [nothing]

theorem Hub.escrow_handsAtMost (e : Hub.Endpoint) (account : Address) :
    (Hub.escrow e account).HandsAtMost 0 := by
  unfold escrow
  split
  · exact handsAtMost_done 0 _
  · exact handsAtMost_request rfl fun answer => handsAtMost_done 0 _

namespace Operator

theorem askBalance_handsAtMost (account : Address) : (askBalance account).HandsAtMost 0 :=
  handsAtMost_request rfl fun _ => handsAtMost_done 0 _

theorem askNonce_handsAtMost (account : Address) : (askNonce account).HandsAtMost 0 :=
  handsAtMost_request rfl fun _ => handsAtMost_done 0 _

theorem balanceRow_handsAtMost (token : Option Address) (account : Address) :
    (balanceRow token account).HandsAtMost 0 := by
  unfold balanceRow
  simp only [bind_eq, pure_eq]
  cases token with
  | none =>
    apply (askBalance_handsAtMost account).bind_zero
    exact fun _ => (askNonce_handsAtMost account).map _
  | some token =>
    apply ((Token.balanceOf account).ask_handsAtMost token _).bind_zero
    exact fun _ => (askNonce_handsAtMost account).map _

theorem collateralRow_handsAtMost (target : Collateral.Target)
    {escrow : Address → Workflow (Except Failure String)}
    (quiet : ∀ account, (escrow account).HandsAtMost 0) (account : Address) :
    (collateralRow target escrow account).HandsAtMost 0 := by
  unfold collateralRow
  simp only [bind_eq, pure_eq]
  apply (askBalance_handsAtMost account).bind_zero
  intro balance
  cases target with
  | token collateral token =>
    apply HandsAtMost.bind_zero
    · exact ((TokenCollateral.balances account).ask_handsAtMost collateral _).map _
    · exact fun _ => (quiet account).map _
  | native collateral provider =>
    apply HandsAtMost.map
    exact ((NativeCollateral.info provider).ask_handsAtMost collateral _).map _

/-- A listing hands nothing over if none of its rows does. -/
theorem rows_handsAtMost (op : Operator) {row : Address → Workflow Row}
    (quiet : ∀ account, (row account).HandsAtMost 0) : (op.rows row).HandsAtMost 0 := by
  unfold rows
  split
  · exact handsAtMost_done 0 _
  · exact (handsAtMost_mapM quiet _).map _

end Operator

/-- The number of transactions that a piece of work consists of. -/
theorem Job.run_handsAtMost (op : Operator) (job : Job) :
    (job.run op).HandsAtMost (job.preparation.toList.length + 1) := by
  refine Yields.mono (job.run_asPlanned op) ?_
  intro trace result planned
  have few := planned.hands.length_le
  rw [List.length_map, handed_acts, List.length_map, List.length_append] at few
  exact few

namespace Rpc

def Query.isSubmission (q : Query) : Bool :=
  q.method = "eth_sendRawTransaction"

/-- Queries of which at most a number hand a transaction over, whatever the replies. -/
inductive Exchange.Submits {α : Type} : Nat → Exchange α → Prop where
  | done (n : Nat) (a : α) : Submits n (.done a)
  | quiet {n : Nat} {q : Query} {next : Reply → Exchange α} (other : q.isSubmission = false)
      (rest : ∀ reply, Submits n (next reply)) : Submits n (.query q next)
  | submit {n : Nat} {q : Query} {next : Reply → Exchange α}
      (rest : ∀ reply, Submits n (next reply)) : Submits (n + 1) (.query q next)

section

variable {α : Type} {q : Query}

theorem Exchange.single_quiet (other : q.isSubmission = false) (read? : Json → Option α) :
    (single q read?).Submits 0 :=
  .quiet other fun _ => .done ..

theorem Exchange.submit_submits (signer : SecretKey) (tx : Transaction) (gas : UInt64) :
    (submit signer tx gas).Submits 1 := by
  rw [submit_def]
  beta_reduce
  generalize tx.sign gas signer = signed
  cases signed with
  | error f => exact .done ..
  | ok wire => exact .submit fun _ => .done ..

theorem Exchange.send_submits (signer : SecretKey) (tx : Transaction) :
    (send signer tx).Submits 1 := by
  have other : (Query.gas tx).isSubmission = false := by simp [Query.isSubmission, Query.gas]
  rw [send]
  refine .quiet other fun reply => ?_
  generalize resultOf word64? reply = estimate
  cases estimate with
  | error reason => exact .done ..
  | ok gas =>
    dsimp only
    exact submit_submits signer tx gas

end

/-- Of the calls, only the one that hands a transaction over sends such a message. -/
theorem Exchange.ofCall_submits (call : Node.Call) :
    (ofCall call).Submits (Request.ask call).sending?.toList.length := by
  cases call with
  | send signer tx => exact send_submits signer tx
  | pendingNonce account => exact single_quiet (by simp [Query.isSubmission, Query.nonce]) _
  | gasPrice => exact single_quiet (by simp [Query.isSubmission, Query.gasPrice]) _
  | gasTip => exact single_quiet (by simp [Query.isSubmission, Query.gasTip]) _
  | chainId => exact single_quiet (by simp [Query.isSubmission, Query.chainId]) _
  | receipt hash => exact single_quiet (by simp [Query.isSubmission, Query.receipt]) _
  | read contract input => exact single_quiet (by simp [Query.isSubmission, Query.read]) _
  | balance account => exact single_quiet (by simp [Query.isSubmission, Query.balance]) _

end Rpc

namespace Network

variable {σ α : Type} {peers : Peers σ} {s s' s'' : State σ} {m n : Nat}

def Message.isSubmission : Message → Bool
  | .toNode q => q.isSubmission
  | .toHub _ => false

/-- What was sent in between hands over at most a number of transactions. -/
def Submits (n : Nat) (s s' : State σ) : Prop :=
  ∃ new, s'.sent = s.sent ++ new ∧ new.countP Message.isSubmission ≤ n

theorem Submits.nothing (h : s'.sent = s.sent) : Submits n s s' :=
  ⟨[], by simp [h], Nat.zero_le n⟩

theorem Submits.trans (h : Submits m s s') (h' : Submits n s' s'') : Submits (m + n) s s'' := by
  obtain ⟨first, sent, few⟩ := h
  obtain ⟨second, sent', few'⟩ := h'
  refine ⟨first ++ second, by rw [sent', sent, List.append_assoc], ?_⟩
  rw [List.countP_append]
  omega

theorem Submits.mono (h : Submits m s s') (le : m ≤ n) : Submits n s s' := by
  obtain ⟨new, sent, few⟩ := h
  exact ⟨new, sent, Nat.le_trans few le⟩

/-- One message is sent. -/
theorem submits_one {message : Message} (sent : s'.sent = s.sent ++ [message]) :
    Submits message.isSubmission.toNat s s' := by
  refine ⟨[message], sent, ?_⟩
  cases h : message.isSubmission <;> simp [h]

/-- Queries hand over as many transactions over a network as they have messages that do. -/
theorem exchange_submits {e : Rpc.Exchange α} (h : e.Submits n) (peers : Peers σ)
    (deadline : Option Millis) (s : State σ) : Submits n s (exchange peers deadline e s).2 := by
  induction h generalizing s with
  | done n a => exact .nothing rfl
  | @quiet n q next other rest ih =>
    have none : (Message.toNode q).isSubmission.toNat = 0 := congrArg Bool.toNat other
    have one (next : State σ) (sent : next.sent = s.sent ++ [.toNode q]) :
        Submits 0 s next := none ▸ submits_one sent
    rw [exchange]
    obtain ⟨⟨reply, span⟩, others⟩ := peers.node s.peers q
    dsimp only
    split
    · exact (one _ rfl).mono (Nat.zero_le n)
    · exact ((one _ rfl).trans (ih _ _)).mono (by omega)
  | @submit n q next rest ih =>
    have one (next : State σ) (sent : next.sent = s.sent ++ [.toNode q]) : Submits 1 s next :=
      (submits_one sent).mono (Bool.toNat_le _)
    rw [exchange]
    obtain ⟨⟨reply, span⟩, others⟩ := peers.node s.peers q
    dsimp only
    split
    · exact (one _ rfl).mono (by omega)
    · exact ((one _ rfl).trans (ih _ _)).mono (by omega)

/-- Of the requests, only the one that hands a transaction over sends such a message. -/
theorem answer_submits (peers : Peers σ) (s : State σ) (q : Request) :
    Submits q.sending?.toList.length s (answer peers s q).2 := by
  cases q with
  | ask call => exact exchange_submits (Rpc.Exchange.ofCall_submits call) peers none s
  | askUntil deadline call =>
    have same : (Request.askUntil deadline call).sending? = (Request.ask call).sending? := by
      cases call <;> rfl
    rw [same]
    exact exchange_submits (Rpc.Exchange.ofCall_submits call) peers (some deadline) s
  | fetch page =>
    have sent : (answer peers s (.fetch page)).2.sent = s.sent ++ [.toHub page] := rfl
    exact submits_one sent
  | sleep span => exact .nothing rfl
  | clock => exact .nothing rfl
  | enter account => exact .nothing rfl
  | leave account => exact .nothing rfl

def stateAfter (peers : Peers σ) (s : State σ) (past : Trace) : State σ :=
  past.foldl (fun s event => (answer peers s event.request).2) s

def outside (peers : Peers σ) (s : State σ) : Outside :=
  fun past q => (answer peers (stateAfter peers s past) q).1

theorem stateAfter_append (peers : Peers σ) (s : State σ) (past trace : Trace) :
    stateAfter peers s (past ++ trace) = stateAfter peers (stateAfter peers s past) trace :=
  List.foldl_append ..

/-- A workflow does over a network what it does with the outside that the network is, so that what
holds for every outside holds over every network. -/
theorem run_eq_play (peers : Peers σ) (s : State σ) (w : Workflow α) (past : Trace) :
    run peers w (stateAfter peers s past) =
      ((w.playFrom (outside peers s) past).1,
        stateAfter peers s (past ++ (w.playFrom (outside peers s) past).2)) := by
  induction w generalizing past with
  | done a => simp [run, Workflow.playFrom]
  | request q next ih =>
    let event : Event := ⟨q, outside peers s past q⟩
    have before : (answer peers (stateAfter peers s past) q).2 =
        stateAfter peers s (past ++ [event]) := by
      rw [stateAfter_append]
      rfl
    have rest := ih event.answer (past ++ [event])
    rw [← before, List.append_assoc] at rest
    exact rest

theorem stateAfter_submits (peers : Peers σ) (s : State σ) (past : Trace) :
    Submits past.sent.length s (stateAfter peers s past) := by
  induction past generalizing s with
  | nil => exact .nothing rfl
  | cons event past ih =>
    have first := answer_submits peers s event.request
    refine (first.trans (ih _)).mono (Nat.le_of_eq ?_)
    rw [sent_cons, List.length_append]

/-- Over a network nothing more is sent to be handed over than the workflow hands over. -/
theorem run_submits {w : Workflow α} (h : w.HandsAtMost n) (peers : Peers σ) (s : State σ) :
    Submits n s (run peers w s).2 := by
  have same := run_eq_play peers s w []
  have few := h (outside peers s) []
  rw [show run peers w s = _ from same]
  exact (stateAfter_submits peers s _).mono few

end Network

end ProviderWallet
