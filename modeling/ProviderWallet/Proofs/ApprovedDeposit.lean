import ProviderWallet.Proofs.HandingOver

namespace ProviderWallet

open Workflow

namespace Waiter

/-- What is seen while a transaction is waited for, and how the waiting ends. -/
inductive Waiting (w : Waiter) (hash : TxHash) : List Act → Except Failure Unit → Prop where
  | expired : Waiting w hash [] (.error (w.expired hash))
  | unknown (reason : String) : Waiting w hash [.unknown hash reason] (.error (.connection reason))
  | failed : Waiting w hash [.failure hash] (.error (.receiptFailed hash.text))
  | confirmed : Waiting w hash [.success hash] (.ok ())
  /-- There is no receipt yet, and the waiting goes on. -/
  | absent {acts : List Act} {result : Except Failure Unit} (later : Waiting w hash acts result) :
      Waiting w hash (.absent hash :: acts) result

namespace Waiting

variable {w : Waiter} {hash : TxHash} {acts : List Act} {result : Except Failure Unit}

/-- Nothing is handed over meanwhile. -/
theorem handed_eq_nil (h : Waiting w hash acts result) : handed acts = [] := by
  induction h with
  | absent later ih => exact ih
  | _ => rfl

/-- Waiting ends well with the first receipt if that is one of success. -/
theorem of_ok (h : Waiting w hash acts (.ok ())) :
    ∃ n, acts = List.replicate n (.absent hash) ++ [.success hash] := by
  generalize he : (Except.ok () : Except Failure Unit) = result at h
  induction h with
  | confirmed => exact ⟨0, rfl⟩
  | absent later ih =>
    obtain ⟨n, rfl⟩ := ih he
    exact ⟨n + 1, rfl⟩
  | _ => cases he

/-- Waiting does not panic. -/
theorem ne_panicked {f : Failure} (h : Waiting w hash acts (.error f)) (message : String) :
    f ≠ .panicked message := by
  rintro rfl
  generalize he : (Except.error (.panicked message) : Except Failure Unit) = result at h
  induction h with
  | absent later ih => exact ih he
  | _ => cases he

/-- Waiting that ends with a failure has seen no success. -/
theorem success_notMem {f : Failure} (h : Waiting w hash acts (.error f)) (other : TxHash) :
    .success other ∉ acts := by
  generalize he : (Except.error f : Except Failure Unit) = result at h
  induction h with
  | confirmed => cases he
  | absent later ih => simpa [Act.success, Act.absent] using ih he
  | _ => simp [Act.success, Act.unknown, Act.failure]

end Waiting

theorem poll_does (w : Waiter) (hash : TxHash) (start : Millis) (rounds : Nat) :
    (w.poll hash start rounds).Does (w.Waiting hash) := by
  induction rounds with
  | zero => exact does_done .expired
  | succ rounds ih =>
    simp only [poll, of, bind_eq, bind_request, bind_done, pure_eq]
    refine does_quiet (fun _ => rfl) fun _ => does_quiet (fun _ => rfl) fun time => ?_
    split
    · exact does_done .expired
    refine does_request fun answer => ?_
    rcases answer with reason | receipt
    · exact does_done (.unknown reason)
    rcases receipt with _ | _ | _
    · exact ih.mono fun acts result later => .absent later
    · exact does_done .confirmed
    · exact does_done .failed

theorem wait_does (w : Waiter) (hash : TxHash) : (w.wait hash).Does (w.Waiting hash) := by
  simp only [wait, of, bind_eq, bind_request, bind_done]
  exact does_quiet (fun _ => rfl) fun start => w.poll_does hash start w.rounds

end Waiter

/-- What may happen about transactions when a deposit depends on an approval, and the result. -/
inductive Depositing (w : Waiter) (approval deposit : Submission) :
    List Act → Except Failure TxHash → Prop where
  | unapproved {acts : List Act} {f : Failure} (first : approval.Handing acts (.error f)) :
      Depositing w approval deposit acts (.error f)
  | unconfirmed {acts : List Act} {f : Failure} (tx : Transaction) (hash : TxHash)
      (payload : tx.payload = approval.payload) (waiting : w.Waiting hash acts (.error f)) :
      Depositing w approval deposit (.hand tx (some (.ok hash)) :: acts) (.error f)
  | confirmed {acts : List Act} {result : Except Failure TxHash} (tx : Transaction)
      (hash : TxHash) (n : Nat) (payload : tx.payload = approval.payload)
      (second : deposit.Handing acts result) :
      Depositing w approval deposit
        (.hand tx (some (.ok hash)) :: List.replicate n (.absent hash) ++ .success hash :: acts)
        result

theorem Operator.depositTokens_does (op : Operator) (key : KeyText) (sender : Address)
    (amount : Wei) (collateral token : Address) :
    (op.depositTokens key sender amount collateral token).Does
      (Depositing op.waiter
        (.ofInvocation key token (Contract.Token.approve collateral amount) none)
        (.ofInvocation key collateral (Contract.TokenCollateral.deposit sender amount) none)) := by
  simp only [depositTokens, invoke, bind_eq, pure_eq]
  refine (Submission.submit_does _ op.timeLimit).bind fun first result handing => ?_
  match result with
  | .error f => exact does_done (by simpa using Depositing.unapproved handing)
  | .ok hash =>
    obtain ⟨tx, rfl, payload, _⟩ := handing.of_ok
    refine (op.waiter.wait_does hash).bind fun seen result waiting => ?_
    match result with
    | .error f =>
      refine does_done ?_
      simpa using Depositing.unconfirmed tx hash payload waiting
    | .ok () =>
      obtain ⟨n, rfl⟩ := waiting.of_ok
      refine (Submission.submit_does _ op.timeLimit).mono fun acts result second => ?_
      simpa using Depositing.confirmed tx hash n payload second

/-- The work ends with a failure and at most one transaction was handed over. -/
def Abandoned (acts : List Act) (result : Except Failure TxHash) : Prop :=
  (handed acts).length ≤ 1 ∧ ∃ f, result = .error f

/-- Of two transactions the second is handed over only when the first has succeeded on chain. -/
structure InOrder (first second : Payload) (acts : List Act) (result : Except Failure TxHash) :
    Prop where
  at_most_two : (handed acts).length ≤ 2
  first_payload : ∀ tx, (handed acts)[0]? = some tx → tx.payload = first
  second_payload : ∀ tx, (handed acts)[1]? = some tx → tx.payload = second
  /-- Before the second only receipts of the first were looked up, and the last one of them, the
  first that there was, says that the first has succeeded. After it nothing happens. -/
  after_success : ∀ tx, (handed acts)[1]? = some tx → ∃ (tx₁ : Transaction) (hash : TxHash)
    (n : Nat) (reply : Option (Except String TxHash)),
    acts = .hand tx₁ (some (.ok hash)) :: List.replicate n (.absent hash) ++
      [.success hash, .hand tx reply]
  /-- Once the first has succeeded no receipt is looked up. -/
  no_more_looks : ∀ before hash after, acts = before ++ .success hash :: after →
    ∀ other reply, .look other reply ∉ after
  refused : ∀ tx reply after, acts = .hand tx reply :: after →
    (∀ hash, reply ≠ some (.ok hash)) → Abandoned acts result
  unknown : ∀ hash reason, .unknown hash reason ∈ acts → Abandoned acts result
  failed : ∀ hash, .failure hash ∈ acts → Abandoned acts result
  /-- This is how it ends too when the time is over, or when nothing is handed over at all. -/
  unconfirmed : (∀ hash, .success hash ∉ acts) → Abandoned acts result
  /-- A panic comes before the first of them, or between the two once the first has succeeded. -/
  panicked : ∀ message, result = .error (.panicked message) →
    acts = [] ∨ (handed acts).length = 1 ∧ ∃ hash, .success hash ∈ acts
  /-- Success is the success of the second transaction. -/
  succeeded : ∀ hash, result = .ok hash → ∃ before tx,
    acts = before ++ [.hand tx (some (.ok hash))] ∧ tx.payload = second

namespace InOrder

variable {first second : Payload} {acts : List Act} {result : Except Failure TxHash}

/-- Work that ends with a failure before any success was seen is in order, if a panic comes before
anything is handed over. -/
theorem of_abandoned {f : Failure}
    (alone : handed acts = [] ∨ ∃ tx, handed acts = [tx] ∧ tx.payload = first)
    (unseen : ∀ hash, .success hash ∉ acts)
    (idle : ∀ message, f = .panicked message → acts = []) :
    InOrder first second acts (.error f) := by
  have length : (handed acts).length ≤ 1 := by
    rcases alone with h | ⟨tx, h, _⟩ <;> simp [h]
  have no_second (tx : Transaction) : (handed acts)[1]? ≠ some tx := by
    rw [List.getElem?_eq_none length]
    simp
  have abandoned : Abandoned acts (.error f) := ⟨length, f, rfl⟩
  refine ⟨by omega, ?_, fun tx h => absurd h (no_second tx), fun tx h => absurd h (no_second tx),
    ?_, fun _ _ _ _ _ => abandoned, fun _ _ _ => abandoned, fun _ _ => abandoned,
    fun _ => abandoned, fun message h => .inl (idle message (Except.error.inj h)),
    fun _ h => nomatch h⟩
  · intro tx h
    rcases alone with none | ⟨other, one, payload⟩
    · simp [none] at h
    · simp only [one, List.getElem?_cons_zero, Option.some.injEq] at h
      exact h ▸ payload
  · intro before hash after h
    exact absurd (h ▸ by simp) (unseen hash)

/-- An entry that a list has only once splits it in one way. -/
theorem split_once {α : Type} {x y : α} {before after pre tail : List α}
    (h : before ++ x :: after = pre ++ y :: tail) (pre_x : x ∉ pre) (tail_x : x ∉ tail) :
    after = tail := by
  rcases List.append_eq_append_iff.mp h with ⟨l, rfl, rest⟩ | ⟨l, rfl, rest⟩
  · cases l with
    | nil => exact (List.cons.inj rest).2
    | cons z l =>
      obtain ⟨rfl, rfl⟩ := List.cons.inj rest
      simp at pre_x
  · cases l with
    | nil => exact (List.cons.inj rest).2.symm
    | cons z l =>
      obtain ⟨rfl, rfl⟩ := List.cons.inj rest
      simp at tail_x

/-- Work that goes on after a success was seen is in order. -/
theorem of_confirmed {deposit : Submission} (tx : Transaction) (hash : TxHash) (n : Nat)
    (payload : tx.payload = first) (handing : deposit.Handing acts result) :
    InOrder first deposit.payload
      (.hand tx (some (.ok hash)) :: List.replicate n (.absent hash) ++ .success hash :: acts)
      result := by
  have seen : handed (.hand tx (some (.ok hash)) :: List.replicate n (.absent hash) ++
      .success hash :: acts) = tx :: handed acts := by
    simp [Act.success]
  have looks (other : TxHash) (reply : Option (Except String (Option Confirmation.Receipt)))
      (h : .look other reply ∈ .hand tx (some (.ok hash)) ::
        List.replicate n (.absent hash) ++ .success hash :: acts) :
      reply = some (.ok none) ∨ reply = some (.ok (some .success)) := by
    simp only [List.cons_append, List.mem_cons, List.mem_append, List.mem_replicate] at h
    rcases h with h | ⟨_, h⟩ | h | h
    · cases h
    · cases h
      exact .inl rfl
    · cases h
      exact .inr rfl
    · exact absurd h (handing.not_look _ _)
  refine ⟨?_, ?_, ?_, ?_, ?_, ?_, ?_, ?_, ?_, ?_, ?_⟩
  · rw [seen]
    rcases handing.handed_payload with h | ⟨_, h, _⟩ <;> simp [h]
  · intro other h
    rw [seen, List.getElem?_cons_zero, Option.some.injEq] at h
    exact h ▸ payload
  · intro other h
    rw [seen, List.getElem?_cons_succ] at h
    rcases handing.handed_payload with none | ⟨third, one, same⟩
    · simp [none] at h
    · simp only [one, List.getElem?_cons_zero, Option.some.injEq] at h
      exact h ▸ same
  · intro other h
    rw [seen, List.getElem?_cons_succ] at h
    cases handing with
    | stopped f => simp at h
    | handed third reply _ _ =>
      simp only [handed_hand, handed_nil, List.getElem?_cons_zero, Option.some.injEq] at h
      subst h
      exact ⟨tx, hash, n, reply, rfl⟩
  · intro before other after h look reply
    have rest := split_once h.symm (by simp [Act.success, Act.absent])
      (handing.not_look other _)
    exact rest ▸ handing.not_look look reply
  · intro other reply after h refused
    simp only [List.cons_append, List.cons.injEq, Act.hand.injEq] at h
    exact absurd h.1.2.symm (refused hash)
  · intro other reason h
    rcases looks _ _ h with h | h <;> cases h
  · intro other h
    rcases looks _ _ h with h | h <;> cases h
  · intro unseen
    exact absurd (by simp) (unseen hash)
  · rintro message rfl
    rw [seen, handing.nothing_of_panicked]
    exact .inr ⟨rfl, hash, by simp⟩
  · rintro other rfl
    obtain ⟨last, rfl, same, _⟩ := handing.of_ok
    exact ⟨.hand tx (some (.ok hash)) :: List.replicate n (.absent hash) ++ [.success hash], last,
      by simp, same⟩

/-- Nothing else is handed over than the two transactions. -/
theorem payload_of_mem (h : InOrder first second acts result) {tx : Transaction}
    (mem : tx ∈ handed acts) : tx.payload = first ∨ tx.payload = second := by
  obtain ⟨i, found⟩ := List.mem_iff_getElem?.mp mem
  have bound := (List.getElem?_eq_some_iff.mp found).1
  have two := h.at_most_two
  obtain rfl | rfl : i = 0 ∨ i = 1 := by omega
  · exact .inl (h.first_payload tx found)
  · exact .inr (h.second_payload tx found)

end InOrder

/-- However a deposit goes, it goes in order. -/
theorem Depositing.inOrder {w : Waiter} {approval deposit : Submission} {acts : List Act}
    {result : Except Failure TxHash} (h : Depositing w approval deposit acts result) :
    InOrder approval.payload deposit.payload acts result := by
  cases h with
  | unapproved first =>
    refine .of_abandoned first.handed_payload (fun hash => first.not_look hash _) ?_
    rintro message rfl
    exact first.nothing_of_panicked
  | unconfirmed tx hash payload waiting =>
    refine .of_abandoned (.inr ⟨tx, by simp [waiting.handed_eq_nil], payload⟩) (fun other => ?_)
      fun message panics => absurd panics (waiting.ne_panicked message)
    simpa [Act.success] using waiting.success_notMem other
  | confirmed tx hash n payload second => exact .of_confirmed tx hash n payload second

/-- Whoever asks for a deposit of tokens, whatever the node answers and however long it takes: the
deposit follows the approval, only once a receipt says that the approval has succeeded, and
nothing is paid along with either of them. -/
theorem deposit_follows_confirmed_approval (op : Operator) (sender : Address) (amount : Wei)
    (collateral token : Address) (outside : Outside) :
    let run := (op.addCollateral sender amount (.token collateral token)).play outside
    InOrder ((Contract.Token.approve collateral amount).payload token none)
        ((Contract.TokenCollateral.deposit sender amount).payload collateral none)
        run.2.acts run.1 ∧
      ∀ tx ∈ handed run.2.acts, tx.value = none := by
  intro run
  have order : InOrder ((Contract.Token.approve collateral amount).payload token none)
      ((Contract.TokenCollateral.deposit sender amount).payload collateral none)
      run.2.acts run.1 := by
    refine Does.play (w := op.addCollateral sender amount (.token collateral token)) ?_ outside
    unfold Operator.addCollateral Operator.withKey
    split
    · exact does_done (.of_abandoned (.inl rfl) (by simp) fun _ _ => rfl)
    · rename_i key _
      exact (op.depositTokens_does key sender amount collateral token).mono
        fun acts result h => h.inOrder
  refine ⟨order, fun tx mem => ?_⟩
  rcases order.payload_of_mem mem with h | h <;> exact congrArg Payload.value h

end ProviderWallet
