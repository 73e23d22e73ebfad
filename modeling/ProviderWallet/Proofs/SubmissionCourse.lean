import ProviderWallet.Proofs.HandingOver
import ProviderWallet.Proofs.RecordName
import ProviderWallet.Proofs.Timing

namespace ProviderWallet

open Workflow

/-- A text that is no key is refused for being none. -/
theorem KeyText.secret_error {key : KeyText} {f : Failure} (failed : key.secret = .error f) :
    ∃ reason, f = .invalidKey reason := by
  rw [secret] at failed
  split at failed
  · cases failed
    exact ⟨_, rfl⟩
  · split at failed
    · cases failed
      exact ⟨_, rfl⟩
    · split at failed
      · cases failed
        exact ⟨_, rfl⟩
      · split at failed
        · cases failed
        · cases failed
          exact ⟨_, rfl⟩

namespace Submission

/-- What the node is asked before a transaction is made. -/
inductive Question where
  | nonce
  | price
  | tip
  | chain
  deriving DecidableEq, Repr

structure Terms where
  nonce : UInt64
  price : Fee.Price
  tip : Fee.Price
  chainId : UInt64

namespace Question

def all : List Question :=
  [nonce, price, tip, chain]

def call (sender : Address) : Question → Node.Call
  | nonce => .pendingNonce sender
  | price => .gasPrice
  | tip => .gasTip
  | chain => .chainId

def failure (sender : Address) (reason : String) : Question → Failure
  | nonce => .nonceFetch sender.text (Failure.connection reason).message
  | price | tip => .gasPriceFetch sender.text (Failure.connection reason).message
  | chain => .chainIdFetch sender.text (Failure.connection reason).message

def reply (sender : Address) (terms : Terms) : (q : Question) → (q.call sender).Reply
  | nonce => terms.nonce
  | price => terms.price
  | tip => terms.tip
  | chain => terms.chainId

def asked (sender : Address) (deadline : Millis) (q : Question)
    (answer : Option (q.call sender).Answer) : Event :=
  ⟨.askUntil deadline (q.call sender), answer⟩

end Question

/-- All these questions are answered in turn. -/
def Terms.answers (terms : Terms) (sender : Address) (deadline : Millis) (qs : List Question) :
    Trace :=
  qs.map fun q => q.asked sender deadline (some (.ok (q.reply sender terms)))

def transaction (s : Submission) (sender : Address) (terms : Terms) : Transaction where
  sender := sender
  recipient := s.recipient
  input := s.input
  value := s.value
  nonce := terms.nonce
  chainId := terms.chainId
  feeCap := Fee.cap terms.price
  tipCap := Fee.tipCap (Fee.cap terms.price) terms.tip

def Terms.parameters (terms : Terms) (signer : SecretKey) (value : Option Wei) :
    Transaction.Parameters where
  signer := signer
  nonce := terms.nonce
  chainId := terms.chainId
  feeCap := Fee.cap terms.price
  tipCap := Fee.tipCap (Fee.cap terms.price) terms.tip
  value := value

/-- How it may happen that a question is not answered. It is the last one that is asked. -/
inductive Halt (sender : Address) (deadline : Millis) : Trace → Stop → Prop where
  /-- The node gives a reason instead of an answer. -/
  | failed (terms : Terms) (before after : List Question) (q : Question) (reason : String)
      (order : Question.all = before ++ q :: after) :
      Halt sender deadline
        (terms.answers sender deadline before ++ [q.asked sender deadline (some (.error reason))])
        (.failed (q.failure sender reason))
  /-- The deadline passes before. -/
  | late (terms : Terms) (before after : List Question) (q : Question)
      (order : Question.all = before ++ q :: after) :
      Halt sender deadline
        (terms.answers sender deadline before ++ [q.asked sender deadline none]) .late

/-- The questions are asked in their order until one is not answered. -/
theorem fetchFor_yields (signer : SecretKey) (value : Option Wei) (deadline : Millis) :
    (fetchFor signer value (some deadline)).run.Yields fun trace result =>
      (∃ stop, result = .error stop ∧ Halt signer.address deadline trace stop) ∨
        ∃ terms : Terms, result = .ok (terms.parameters signer value) ∧
          trace = terms.answers signer.address deadline Question.all := by
  simp only [fetchFor, parameter, askBy, of, ExceptT.run_bind, ExceptT.run_mk, ExceptT.run_pure,
    bind_eq, bind_request, bind_done, pure_eq]
  refine yields_request fun nonce => ?_
  rcases nonce with _ | reason | nonce
  · exact yields_done (.inl ⟨_, rfl, .late ⟨0, 0, 0, 0⟩ [] _ .nonce rfl⟩)
  · exact yields_done (.inl ⟨_, rfl, .failed ⟨0, 0, 0, 0⟩ [] _ .nonce reason rfl⟩)
  refine yields_request fun price => ?_
  rcases price with _ | reason | price
  · exact yields_done (.inl ⟨_, rfl, .late ⟨nonce, 0, 0, 0⟩ [.nonce] _ .price rfl⟩)
  · exact yields_done (.inl ⟨_, rfl, .failed ⟨nonce, 0, 0, 0⟩ [.nonce] _ .price reason rfl⟩)
  refine yields_request fun tip => ?_
  rcases tip with _ | reason | tip
  · exact yields_done (.inl ⟨_, rfl, .late ⟨nonce, price, 0, 0⟩ [.nonce, .price] _ .tip rfl⟩)
  · exact yields_done
      (.inl ⟨_, rfl, .failed ⟨nonce, price, 0, 0⟩ [.nonce, .price] _ .tip reason rfl⟩)
  refine yields_request fun chainId => ?_
  rcases chainId with _ | reason | chainId
  · exact yields_done
      (.inl ⟨_, rfl, .late ⟨nonce, price, tip, 0⟩ [.nonce, .price, .tip] _ .chain rfl⟩)
  · exact yields_done
      (.inl ⟨_, rfl, .failed ⟨nonce, price, tip, 0⟩ [.nonce, .price, .tip] _ .chain reason rfl⟩)
  · exact yields_done (.inr ⟨⟨nonce, price, tip, chainId⟩, rfl, rfl⟩)

def failureOf (s : Submission) (sender : Address) : Stop → Failure
  | .failed f => f
  | .late => .submission sender.text s.method "deadline exceeded while building"

/-- How a submission may go on when it is the sender's turn. -/
inductive InTurn (s : Submission) (signer : SecretKey) (deadline : Millis) :
    Trace → Except Failure TxHash → Prop where
  /-- A question is not answered, and nothing is handed over. -/
  | halted {trace : Trace} (stop : Stop) (halt : Halt signer.address deadline trace stop) :
      InTurn s signer deadline trace (.error (s.failureOf signer.address stop))
  /-- All questions are answered, and the transaction on these terms is handed over. -/
  | handed (terms : Terms) (reply : Option (Except String TxHash)) :
      InTurn s signer deadline
        (terms.answers signer.address deadline Question.all ++
          [⟨.askUntil deadline (.send signer (s.transaction signer.address terms)), reply⟩])
        (s.resultOf signer.address reply)

theorem send_yields (s : Submission) (p : Transaction.Parameters) (deadline : Millis) :
    (s.send p deadline).Yields fun trace result =>
      ∃ reply : Option (Except String TxHash),
        trace = [⟨.askUntil deadline (.send p.signer (p.complete s.recipient s.input)), reply⟩] ∧
          result = s.resultOf p.signer.address reply := by
  simp only [send, of, bind_eq, bind_request, bind_done, pure_eq]
  refine yields_request fun reply => ?_
  rcases reply with _ | _ | hash
  · exact yields_done ⟨none, rfl, rfl⟩
  · exact yields_done ⟨some (.error _), rfl, rfl⟩
  · exact yields_done ⟨some (.ok hash), rfl, rfl⟩

/-- In its turn a submission goes on in one of these ways. -/
theorem sendInTurn_yields (s : Submission) (signer : SecretKey) (deadline : Millis) :
    (s.sendInTurn signer deadline).Yields (s.InTurn signer deadline) := by
  simp only [sendInTurn, bind_eq]
  refine (fetchFor_yields signer s.value deadline).bind ?_
  rintro first result (⟨stop, rfl, halt⟩ | ⟨terms, rfl, rfl⟩)
  · have halted := InTurn.halted (s := s) stop halt
    rw [← List.append_nil first] at halted
    cases stop with
    | failed f => exact yields_done halted
    | late => exact yields_done halted
  · refine (s.send_yields (terms.parameters signer s.value) deadline).mono ?_
    rintro trace result ⟨reply, rfl, rfl⟩
    exact .handed terms reply

/-- How a submission may go. -/
inductive Course (s : Submission) (timeLimit : Millis) : Trace → Except Failure TxHash → Prop where
  /-- The text is no key, and nothing happens. -/
  | noKey (reason : String) (invalid : s.key.secret = .error (.invalidKey reason)) :
      Course s timeLimit [] (.error (.invalidKey reason))
  /-- The submission waits for its turn, and the time that it may take is counted from then on. In
  the end it is the turn of others. -/
  | inTurn (signer : SecretKey) (known : s.key.secret = .ok signer) (start : Millis)
      (within : start + timeLimit ≤ Millis.last) {trace : Trace}
      {result : Except Failure TxHash} (turn : s.InTurn signer (start + timeLimit) trace result) :
      Course s timeLimit
        (⟨.enter signer.address, ()⟩ :: ⟨.clock, start⟩ ::
          (trace ++ [⟨.leave signer.address, ()⟩]))
        result
  /-- The time ends later than the clock can tell. Nobody is asked anything, and the submission
  panics. -/
  | beyond (signer : SecretKey) (known : s.key.secret = .ok signer) (start : Millis)
      (late : Millis.last < start + timeLimit) :
      Course s timeLimit
        [⟨.enter signer.address, ()⟩, ⟨.clock, start⟩, ⟨.leave signer.address, ()⟩]
        (.error (.panicked beyondClock))

/-- A submission goes one of the ways that it may go. -/
theorem submit_yields (s : Submission) (timeLimit : Millis) :
    (s.submit timeLimit).Yields (s.Course timeLimit) := by
  refine submit_yields_of ?_ (fun signer start known late => .beyond signer known start late) ?_
  · intro f unusable
    obtain ⟨reason, rfl⟩ := KeyText.secret_error unusable
    exact .noKey reason unusable
  · intro signer start known within
    exact (s.sendInTurn_yields signer (start + timeLimit)).mono fun _ _ turn =>
      .inTurn signer known start within turn

theorem Terms.asked {terms : Terms} {sender : Address} {deadline : Millis} {qs : List Question}
    {event : Event} (among : event ∈ terms.answers sender deadline qs) :
    ∃ call reply, event = ⟨.askUntil deadline call, some reply⟩ := by
  obtain ⟨q, -, rfl⟩ := List.mem_map.mp among
  exact ⟨_, _, rfl⟩

variable {s : Submission} {signer : SecretKey} {deadline timeLimit : Millis} {trace : Trace}
  {result : Except Failure TxHash}

/-- In the sender's turn all questions have the deadline, and all but the last are answered. -/
theorem InTurn.questions (turn : s.InTurn signer deadline trace result) :
    ∃ answered call reply, trace = answered ++ [⟨.askUntil deadline call, reply⟩] ∧
      ∀ event ∈ answered, ∃ call reply, event = ⟨.askUntil deadline call, some reply⟩ := by
  cases turn with
  | halted stop halt =>
    cases halt with
    | failed => exact ⟨_, _, _, rfl, fun _ => Terms.asked⟩
    | late => exact ⟨_, _, _, rfl, fun _ => Terms.asked⟩
  | handed => exact ⟨_, _, _, rfl, fun _ => Terms.asked⟩

/-- What is asked in a submission is asked and given up in time. -/
theorem Course.punctual (course : s.Course timeLimit trace result) {outside : Outside}
    {now : Trace → Millis} (answers : outside.Answers [] trace) (timed : outside.Timed now) :
    trace.Punctual timeLimit now := by
  intro before deadline call reply after split
  cases course with
  | noKey => simp at split
  | beyond signer known start late =>
    rcases before with _ | ⟨first, _ | ⟨second, _ | ⟨third, before⟩⟩⟩ <;> simp at split
  | @inTurn signer known start within trace result turn =>
    obtain ⟨answered, call', reply', rfl, asked⟩ := turn.questions
    have right : start = now [⟨.enter signer.address, ()⟩] :=
      (answers [_] ⟨.clock, start⟩ _ rfl).trans (timed.clock _).1
    have looked := (timed.clock [⟨.enter signer.address, ()⟩]).2
    rw [← right, List.singleton_append] at looked
    have soon : now [⟨.enter signer.address, ()⟩, ⟨.clock, start⟩] ≤ start + timeLimit :=
      Nat.le_trans (Nat.le_of_eq looked) (Nat.le_add_right start timeLimit)
    have replied := answers before _ after split
    rw [List.nil_append] at replied
    -- The questions come after the turn and the look at the clock.
    rcases before with _ | ⟨first, _ | ⟨second, before⟩⟩
    · cases split
    · cases split
    injection split with enters split
    injection split with looks split
    subst enters looks
    obtain ⟨rfl, early⟩ := timed.asked_early soon answers.tail.tail asked
      (fun _ _ absurd => nomatch absurd) split
    refine ⟨by rw [List.take_succ_cons, List.take_zero, ← right], ?_, ?_⟩
    · intro answered
      obtain ⟨answer, rfl⟩ := Option.ne_none_iff_exists'.mp answered
      have next := timed.inTime _ _ _ _ replied.symm
      exact Nat.le_trans next (Nat.max_le.mpr ⟨Nat.le_refl _, early⟩)
    · rintro rfl
      exact timed.late _ _ _ replied.symm

end Submission

/-- Whatever the node answers and however long it takes, a submission goes one of the ways that it
may go, and nothing else happens. The time that it may take begins with the sender's turn: what is
answered is answered within it, and what is given up is given up because it has passed. -/
theorem submission_runs_its_course (s : Submission) (timeLimit : Millis) (outside : Outside) :
    let run := (s.submit timeLimit).play outside
    s.Course timeLimit run.2 run.1 ∧ ∀ now, outside.Timed now → run.2.Punctual timeLimit now := by
  intro run
  have course : s.Course timeLimit run.2 run.1 := s.submit_yields timeLimit outside []
  exact ⟨course, fun now timed => course.punctual (playFrom_answers outside [] _) timed⟩

def Trace.questions (trace : Trace) : Nat :=
  trace.countP fun event =>
    match event.request with
    | .askUntil .. => true
    | _ => false

/-- Every question with a deadline takes a millisecond, and only those for a nonce are answered
well. -/
def Outside.slow : Outside := fun past q =>
  match q with
  | .askUntil deadline call =>
    if past.questions < deadline then
      some (match call with
        | .pendingNonce _ => .ok 7
        | _ => .error "busy")
    else none
  | .ask _ => .error "busy"
  | .fetch _ => .error "busy"
  | .clock => past.questions
  | .sleep _ | .enter _ | .leave _ => ()

theorem Outside.slow_timed : slow.Timed Trace.questions where
  clock past := ⟨rfl, by simp [Trace.questions]⟩
  inTime past deadline call reply answered := by
    have next : Trace.questions (past ++ [⟨.askUntil deadline call, some reply⟩]) =
        past.questions + 1 := by simp [Trace.questions]
    dsimp only [slow] at answered
    split at answered
    · rename_i early
      rw [next]
      exact Nat.le_trans (Nat.succ_le_of_lt early) (Nat.le_max_left ..)
    · cases answered
  late past deadline call unanswered := by
    have next : Trace.questions (past ++ [⟨.askUntil deadline call, none⟩]) =
        past.questions + 1 := by simp [Trace.questions]
    dsimp only [slow] at unanswered
    split at unanswered
    · cases unanswered
    · rename_i passed
      rw [next]
      exact Nat.le_succ_of_le (Nat.not_lt.mp passed)

/-- With one millisecond for all questions, the second one is given up. -/
theorem slow_submission_late :
    let secret : SecretKey := ⟨1, by decide, by decide⟩
    let s : Submission := ⟨⟨secret.text⟩, ⟨5⟩, [], none, "transfer"⟩
    let run := (s.submit 1).play .slow
    Outside.slow.Timed Trace.questions ∧ run.2.Punctual 1 Trace.questions ∧
      run.1 = .error (.submission secret.address.text "transfer"
        "deadline exceeded while building") := by
  intro secret s run
  -- From here on it does not matter which key it is.
  clear_value secret
  obtain ⟨-, punctual⟩ := submission_runs_its_course s 1 .slow
  refine ⟨Outside.slow_timed, punctual _ Outside.slow_timed, ?_⟩
  have known : s.key.secret = .ok secret := secret.secret_text
  change ((s.submit 1).play .slow).1 = _
  rw [Submission.submit_signed known]
  rfl

def Event.givenUp? : Event → Option Millis
  | ⟨.askUntil deadline _, none⟩ => some deadline
  | _ => none

def Trace.waited (trace : Trace) : Millis :=
  (trace.filterMap Event.givenUp?).foldl max 0

/-- A node that answers all questions at once but never says whether it has taken a transaction. -/
def Outside.mute : Outside := fun past q =>
  match q with
  | .askUntil _ (.send ..) => none
  | .askUntil _ call =>
    some (match call with
      | .pendingNonce _ => .ok 7
      | .gasPrice | .gasTip => .ok 10
      | .chainId => .ok 254
      | _ => .error "busy")
  | .ask _ => .error "busy"
  | .fetch _ => .error "busy"
  | .clock => past.waited
  | .sleep _ | .enter _ | .leave _ => ()

theorem waited_concat (past : Trace) (event : Event) :
    (past ++ [event]).waited = max past.waited (event.givenUp?.getD 0) := by
  cases h : event.givenUp? <;> simp [Trace.waited, h]

theorem Outside.mute_timed : mute.Timed Trace.waited where
  clock past := ⟨rfl, by simp [waited_concat, Event.givenUp?]⟩
  inTime past deadline call reply answered := by
    rw [waited_concat]
    exact Nat.max_le.mpr ⟨Nat.le_max_right .., Nat.zero_le _⟩
  late past deadline call unanswered := by
    rw [waited_concat]
    exact Nat.le_max_right ..

namespace Submission

variable {s : Submission} {signer : SecretKey} {timeLimit : Millis}

theorem sendInTurn_mute (s : Submission) (signer : SecretKey) (deadline : Millis)
    (past : Trace) :
    ((s.sendInTurn signer deadline).playFrom .mute past).1 =
        .error (s.refused signer.address "deadline exceeded while sending") ∧
      ∃ tx, ((s.sendInTurn signer deadline).playFrom .mute past).2.acts = [.hand tx none] :=
  ⟨rfl, _, rfl⟩

/-- A node that does not say whether it has taken the transaction is waited for until the deadline.
-/
theorem submit_mute (known : s.key.secret = .ok signer) (within : timeLimit ≤ Millis.last) :
    ((s.submit timeLimit).play .mute).1 =
        .error (s.refused signer.address "deadline exceeded while sending") ∧
      ∃ tx, ((s.submit timeLimit).play .mute).2.acts = [.hand tx none] := by
  obtain ⟨result, tx, sent⟩ := s.sendInTurn_mute signer (0 + timeLimit) (opening signer 0)
  rw [submit_play known 0 rfl (by rwa [Nat.zero_add])]
  refine ⟨result, tx, ?_⟩
  rw [acts_append, acts_append, sent]
  rfl

/-- Nobody is asked anything. -/
theorem submit_beyond (known : s.key.secret = .ok signer) (late : Millis.last < timeLimit)
    (outside : Outside) :
    (s.submit timeLimit).play outside = (.error (.panicked beyondClock),
      [⟨.enter signer.address, ()⟩, ⟨.clock, outside [⟨.enter signer.address, ()⟩] .clock⟩,
        ⟨.leave signer.address, ()⟩]) := by
  have none (start : Millis) : Millis.after? start timeLimit = none :=
    Millis.after?_of_lt (Nat.lt_of_lt_of_le late (Nat.le_add_left timeLimit start))
  simp only [play, submit_signed known, playFrom, List.nil_append, none, sendBefore, bind_done]

end Submission

/-- With a node that never says whether it has taken the transaction, the submission ends with the
deadline, though nothing was rejected. With a deadline that is later than the clock can tell it
panics, and it has asked nothing. -/
theorem submission_cut_short :
    let secret : SecretKey := ⟨1, by decide, by decide⟩
    let s : Submission := ⟨⟨secret.text⟩, ⟨5⟩, [], none, "transfer"⟩
    let patient := (s.submit 1000).play .mute
    let endless := (s.submit (Millis.last + 1)).play .mute
    s.key.secret = .ok secret ∧ Outside.mute.Timed Trace.waited ∧
      (∃ tx, patient.2.acts = [.hand tx none]) ∧
      patient.1 = .error (.submission secret.address.text "transfer"
        "deadline exceeded while sending") ∧
      endless.2.questions = 0 ∧ endless.1 = .error (.panicked Submission.beyondClock) := by
  intro secret s patient endless
  -- From here on it does not matter which key it is.
  clear_value secret
  have known : s.key.secret = .ok secret := secret.secret_text
  have within : 1000 ≤ Millis.last := by decide
  have late : Millis.last < Millis.last + 1 := Nat.lt_succ_self _
  obtain ⟨given_up, handed⟩ := Submission.submit_mute known within
  have beyond : endless = _ := Submission.submit_beyond known late .mute
  refine ⟨known, Outside.mute_timed, handed, given_up, ?_, ?_⟩
  · rw [beyond]
    rfl
  · rw [beyond]

end ProviderWallet
