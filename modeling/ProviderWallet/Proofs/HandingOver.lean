import ProviderWallet.Operator
import ProviderWallet.Proofs.Trace

namespace ProviderWallet

structure Payload where
  recipient : Address
  input : Bytes
  value : Option Wei
  deriving DecidableEq, Repr

def Transaction.payload (tx : Transaction) : Payload :=
  ⟨tx.recipient, tx.input, tx.value⟩

def Contract.Invocation.payload (i : Contract.Invocation) (contract : Address)
    (value : Option Wei) : Payload :=
  ⟨contract, i.input, value⟩

namespace Submission

open Workflow

def payload (s : Submission) : Payload :=
  ⟨s.recipient, s.input, s.value⟩

def resultOf (s : Submission) (sender : Address) :
    Option (Except String TxHash) → Except Failure TxHash
  | none => .error (s.refused sender "deadline exceeded while sending")
  | some (.error reason) => .error (s.refused sender (Failure.connection reason).message)
  | some (.ok hash) => .ok hash

/-- What a submission may do about transactions, and its result then. -/
inductive Handing (s : Submission) : List Act → Except Failure TxHash → Prop where
  /-- It ends before anything is handed over. -/
  | stopped (f : Failure) : Handing s [] (.error f)
  /-- Its transaction is handed over, by the account of its key. -/
  | handed (tx : Transaction) (reply : Option (Except String TxHash))
      (payload : tx.payload = s.payload) (sender : s.key.address = .ok tx.sender) :
      Handing s [.hand tx reply] (s.resultOf tx.sender reply)

/-- A failure after the transaction was handed over says that it was handed over. -/
theorem resultOf_error {s : Submission} {sender : Address}
    {reply : Option (Except String TxHash)} {f : Failure}
    (h : s.resultOf sender reply = .error f) : ∃ reason, f = s.refused sender reason := by
  cases reply with
  | none =>
    cases h
    exact ⟨_, rfl⟩
  | some reply =>
    cases reply with
    | error reason =>
      cases h
      exact ⟨_, rfl⟩
    | ok hash => cases h

theorem resultOf_ok {s : Submission} {sender : Address} {reply : Option (Except String TxHash)}
    {hash : TxHash} (h : s.resultOf sender reply = .ok hash) : reply = some (.ok hash) := by
  cases reply with
  | none => cases h
  | some reply =>
    cases reply with
    | error reason => cases h
    | ok other =>
      cases h
      rfl

theorem refused_not_retryable (s : Submission) (sender : Address) (reason : String) :
    (s.refused sender reason).isRetryable = false := rfl

namespace Handing

variable {s : Submission} {acts : List Act} {result : Except Failure TxHash}

/-- A submission that succeeds has handed over one transaction, and the node has named it. -/
theorem of_ok {hash : TxHash} (h : Handing s acts (.ok hash)) :
    ∃ tx, acts = [.hand tx (some (.ok hash))] ∧ tx.payload = s.payload ∧
      s.key.address = .ok tx.sender := by
  generalize he : (Except.ok hash : Except Failure TxHash) = result at h
  cases h with
  | stopped f => cases he
  | handed tx reply payload sender =>
    rw [resultOf_ok he.symm]
    exact ⟨tx, rfl, payload, sender⟩

/-- A submission never looks a receipt up. -/
theorem not_look (h : Handing s acts result) (hash : TxHash)
    (reply : Option (Except String (Option Confirmation.Receipt))) :
    .look hash reply ∉ acts := by
  cases h <;> simp

/-- Nothing is handed over but the transaction that the submission was made for. -/
theorem handed_payload (h : Handing s acts result) :
    ProviderWallet.handed acts = [] ∨
      ∃ tx, ProviderWallet.handed acts = [tx] ∧ tx.payload = s.payload := by
  cases h with
  | stopped f => exact .inl rfl
  | handed tx reply payload _ => exact .inr ⟨tx, rfl, payload⟩

/-- A submission that fails has handed nothing over, or says that it was refused. -/
theorem nothing_or_refused {f : Failure} (h : Handing s acts (.error f)) :
    acts = [] ∨ ∃ sender reason, f = s.refused sender reason := by
  generalize he : (Except.error f : Except Failure TxHash) = result at h
  cases h with
  | stopped _ => exact .inl rfl
  | handed tx reply _ _ => exact .inr ⟨tx.sender, resultOf_error he.symm⟩

/-- If a submission may be tried again then nothing was handed over. -/
theorem nothing_of_retryable {f : Failure} (h : Handing s acts (.error f))
    (retryable : f.isRetryable = true) : acts = [] := by
  rcases h.nothing_or_refused with nothing | ⟨sender, reason, rfl⟩
  · exact nothing
  · rw [refused_not_retryable] at retryable
    contradiction

/-- A submission that panics has handed nothing over. -/
theorem nothing_of_panicked {message : String} (h : Handing s acts (.error (.panicked message))) :
    acts = [] := by
  rcases h.nothing_or_refused with nothing | ⟨sender, reason, refused⟩
  · exact nothing
  · cases refused

end Handing

/-- Fetching the parameters leaves no mark, and they are those of the signer. -/
theorem fetchFor_does (signer : SecretKey) (value : Option Wei) (deadline : Millis) :
    (fetchFor signer value (some deadline)).run.Does fun acts result =>
      acts = [] ∧ ∀ p, result = .ok p → p.signer = signer ∧ p.value = value := by
  -- Each question may fail or come too late, and then there are no parameters.
  simp only [fetchFor, parameter, askBy, of, ExceptT.run_bind, ExceptT.run_mk, ExceptT.run_pure,
    bind_eq, bind_request, bind_done, pure_eq]
  refine does_quiet (fun _ => rfl) fun nonce => ?_
  rcases nonce with _ | _ | nonce
  · exact does_done (by simp)
  · exact does_done (by simp)
  refine does_quiet (fun _ => rfl) fun suggested => ?_
  rcases suggested with _ | _ | suggested
  · exact does_done (by simp)
  · exact does_done (by simp)
  refine does_quiet (fun _ => rfl) fun tip => ?_
  rcases tip with _ | _ | tip
  · exact does_done (by simp)
  · exact does_done (by simp)
  refine does_quiet (fun _ => rfl) fun chainId => ?_
  rcases chainId with _ | _ | chainId
  · exact does_done (by simp)
  · exact does_done (by simp)
  · exact does_done (by simp)

/-- One transaction is handed over, and the reply decides. -/
theorem send_does (s : Submission) (p : Transaction.Parameters) (deadline : Millis) :
    (s.send p deadline).Does fun acts result =>
      ∃ reply, acts = [.hand (p.complete s.recipient s.input) reply] ∧
        result = s.resultOf p.signer.address reply := by
  simp only [send, of, bind_eq, bind_request, bind_done, pure_eq]
  refine does_request fun reply => ?_
  rcases reply with _ | _ | hash <;> exact does_done ⟨_, rfl, rfl⟩

theorem sendInTurn_does (s : Submission) {signer : SecretKey} (deadline : Millis)
    (key : s.key.secret = .ok signer) :
    (s.sendInTurn signer deadline).Does s.Handing := by
  have sender : s.key.address = .ok signer.address := by
    rw [KeyText.address, key]
    rfl
  simp only [sendInTurn, bind_eq]
  refine (fetchFor_does signer s.value deadline).bind fun first result holds => ?_
  obtain ⟨rfl, known⟩ := holds
  match result with
  | .error (.failed f) => exact does_done (.stopped f)
  | .error .late => exact does_done (.stopped _)
  | .ok p =>
    obtain ⟨rfl, value⟩ := known p rfl
    refine (s.send_does p deadline).mono ?_
    rintro acts result ⟨reply, rfl, rfl⟩
    exact .handed (p.complete s.recipient s.input) reply
      (by simp [Transaction.payload, Transaction.Parameters.complete, payload, value]) sender

section

variable {s : Submission} {signer : SecretKey} {outside : Outside} {timeLimit : Millis}

def opening (signer : SecretKey) (start : Millis) : Trace :=
  [⟨.enter signer.address, ()⟩, ⟨.clock, start⟩]

/-- A submission does nothing without a key, nothing but take its turn if the clock cannot tell the
deadline, and else what it does in its turn. -/
theorem submit_yields_of {post : Trace → Except Failure TxHash → Prop}
    (unsigned : ∀ f, s.key.secret = .error f → post [] (.error f))
    (beyond : ∀ signer start, s.key.secret = .ok signer → Millis.last < start + timeLimit →
      post (opening signer start ++ [⟨.leave signer.address, ()⟩])
        (.error (.panicked beyondClock)))
    (inTurn : ∀ signer start, s.key.secret = .ok signer → start + timeLimit ≤ Millis.last →
      (s.sendInTurn signer (start + timeLimit)).Yields fun trace result =>
        post (opening signer start ++ (trace ++ [⟨.leave signer.address, ()⟩])) result) :
    (s.submit timeLimit).Yields post := by
  cases known : s.key.secret with
  | error f =>
    rw [submit_unsigned known]
    exact yields_done (unsigned f known)
  | ok signer =>
    rw [submit_signed known]
    refine yields_request fun _ => yields_request fun start => ?_
    rcases Nat.lt_or_ge Millis.last (start + timeLimit) with late | within
    · rw [Millis.after?_of_lt late]
      exact yields_request fun _ => yields_done (beyond signer start known late)
    · rw [Millis.after?_of_le within]
      refine (inTurn signer start known within).bind fun trace result holds => ?_
      exact yields_request fun _ => yields_done holds

/-- A submission hands over at most one transaction, the one that it was made for. -/
theorem submit_does (s : Submission) (timeLimit : Millis) :
    (s.submit timeLimit).Does s.Handing := by
  refine submit_yields_of (fun f _ => .stopped f) (fun _ _ _ _ => .stopped _) ?_
  intro signer start key _
  have holds := s.sendInTurn_does (start + timeLimit) key
  refine Yields.mono holds fun trace result handing => ?_
  simpa [opening, acts_cons, Event.act?] using handing

/-- In a submission that the clock has time for, all else happens in the sender's turn. -/
theorem submit_play (known : s.key.secret = .ok signer) (start : Millis)
    (clock : outside [⟨.enter signer.address, ()⟩] .clock = start)
    (within : start + timeLimit ≤ Millis.last) :
    (s.submit timeLimit).play outside =
      let (result, turn) :=
        (s.sendInTurn signer (start + timeLimit)).playFrom outside (opening signer start)
      (result, opening signer start ++ (turn ++ [⟨.leave signer.address, ()⟩])) := by
  simp only [play, submit_signed known, playFrom, List.nil_append, clock,
    Millis.after?_of_le within, sendBefore, playFrom_bind]
  rfl

end

end Submission

end ProviderWallet
