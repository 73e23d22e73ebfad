import ProviderWallet.Proofs.HandingOver
import ProviderWallet.Proofs.Interleaving

namespace ProviderWallet

inductive Phase where
  /-- The turn has not come. -/
  | before
  | started
  /-- The node has told the nonce. -/
  | told (nonce : UInt64)
  /-- The transaction was handed over. -/
  | spent
  /-- The turn was passed on. -/
  | finished
  deriving DecidableEq

namespace Phase

def Turn : Phase → Prop
  | before | finished => False
  | started | told _ | spent => True

def Unspent : Phase → Prop
  | before | started | told _ => True
  | spent | finished => False

theorem turn_started : Turn started := trivial

theorem turn_told (nonce : UInt64) : Turn (told nonce) := trivial

theorem turn_spent : Turn spent := trivial

/-- What may happen in a phase, and the phase that comes then. -/
inductive Goes (account : Address) : Phase → Event → Phase → Prop where
  | enter : Goes account before ⟨.enter account, ()⟩ started
  | told (deadline : Millis) (nonce : UInt64) :
      Goes account started ⟨.askUntil deadline (.pendingNonce account), some (.ok nonce)⟩
        (told nonce)
  | untold (deadline : Millis) (reply : Option (Node.Call.pendingNonce account).Answer)
      (h : ∀ nonce, reply ≠ some (.ok nonce)) :
      Goes account started ⟨.askUntil deadline (.pendingNonce account), reply⟩ started
  | hand (deadline : Millis) (signer : SecretKey) (tx : Transaction)
      (reply : Option (Node.Call.send signer tx).Answer) (sender : tx.sender = account) :
      Goes account (told tx.nonce) ⟨.askUntil deadline (.send signer tx), reply⟩ spent
  | plain {p : Phase} (turn : p.Turn) (deadline : Millis) (call : Node.Call)
      (h : call.isPlain) (reply : Option call.Answer) :
      Goes account p ⟨.askUntil deadline call, reply⟩ p
  | clock {p : Phase} (turn : p.Turn) (time : Millis) : Goes account p ⟨.clock, time⟩ p
  | leave {p : Phase} (turn : p.Turn) : Goes account p ⟨.leave account, ()⟩ finished

namespace Goes

variable {account : Address} {p p' : Phase} {event : Event}

/-- One waits for one's turn only once. -/
theorem ne_before (h : Goes account p event p') : p' ≠ before := by
  rintro rfl
  cases h with
  | plain turn => exact turn
  | clock turn => exact turn

/-- Nothing happens once the turn was passed on. -/
theorem not_finished (h : Goes account p event p') : p ≠ finished := by
  rintro rfl
  cases h with
  | plain turn => exact turn
  | clock turn => exact turn
  | leave turn => exact turn

/-- Only the node tells a nonce. -/
theorem asks_of_told {nonce : UInt64} (h : Goes account p event (.told nonce)) :
    p = .told nonce ∨ ∃ deadline, event.request = .askUntil deadline (.pendingNonce account) := by
  cases h with
  | told deadline nonce => exact .inr ⟨deadline, rfl⟩
  | plain turn => exact .inl rfl
  | clock turn => exact .inl rfl

/-- Nobody asks for the nonce of another account. -/
theorem asks {deadline : Millis} {b : Address} (h : Goes account p event p')
    (asks : event.request = .askUntil deadline (.pendingNonce b)) : b = account := by
  cases h with
  | told | untold =>
    cases asks
    rfl
  | plain _ _ _ plain =>
    cases asks
    cases plain
  | enter | hand | clock | leave => cases asks

/-- The turn is over as soon as it is passed on. -/
theorem leaves_iff (h : Goes account p event p') :
    event.request = .leave account ↔ p' = finished := by
  have going := h.not_finished
  cases h with
  | leave turn => simp
  | plain turn => simpa using going
  | clock turn => simpa using going
  | enter => simp
  | told => simp
  | untold => simp
  | hand => simp

/-- One waits for the turn of one's account, and for no other. -/
theorem enters {b : Address} (h : Goes account p ⟨.enter b, ()⟩ p') :
    b = account ∧ ¬ p.Turn := by
  cases h with
  | enter => exact ⟨rfl, id⟩

end Goes

end Phase

namespace Workflow

variable {α β : Type} {account : Address}

/-- Whatever is answered, the phases go on as they may, up to one that fits the result. -/
def Follows (account : Address) (post : Phase → α → Prop) : Workflow α → Phase → Prop
  | done a, p => post p a
  | request q next, p =>
    ∀ answer, ∃ p', Phase.Goes account p ⟨q, answer⟩ p' ∧ (next answer).Follows account post p'

theorem Follows.bind {first : Phase → α → Prop} {post : Phase → β → Prop} {w : Workflow α}
    {f : α → Workflow β} {p : Phase} (h : w.Follows account first p)
    (rest : ∀ p' a, first p' a → (f a).Follows account post p') :
    (w.bind f).Follows account post p := by
  induction w generalizing p with
  | done a => exact rest p a h
  | request q next ih =>
    intro answer
    obtain ⟨p', goes, later⟩ := h answer
    exact ⟨p', goes, ih answer later⟩

end Workflow

namespace Submission

open Workflow

variable {α : Type}

/-- The account that a submission sends for; for want of a key it sends for none, and any will
do. -/
def account (s : Submission) : Address :=
  match s.key.address with
  | .ok account => account
  | .error _ => ⟨0⟩

def Settled (p : Phase) (_ : α) : Prop :=
  p = .before ∨ p = .finished

theorem Settled.not_turn {p : Phase} {a : α} (h : Settled p a) : ¬ p.Turn := by
  rcases h with rfl | rfl <;> exact id

/-- Who knows the parameters knows the nonce that the node has told last. -/
def Informed (signer : SecretKey) (p : Phase) (result : Except Stop Transaction.Parameters) :
    Prop :=
  p.Turn ∧ ∀ known, result = .ok known → known.signer = signer ∧ p = .told known.nonce

/-- A question that changes nothing. -/
theorem follows_plain {post : Phase → α → Prop} {account : Address} {p : Phase} (turn : p.Turn)
    {deadline : Millis} {call : Node.Call} (plain : call.isPlain)
    {next : Option call.Answer → Workflow α}
    (h : ∀ reply, (next reply).Follows account post p) :
    (request (.askUntil deadline call) next).Follows account post p :=
  fun reply => ⟨p, .plain turn deadline call plain reply, h reply⟩

/-- The parameters are fetched in one's turn, and one knows the nonce then. -/
theorem fetchFor_follows (signer : SecretKey) (value : Option Wei) (deadline : Millis) :
    (fetchFor signer value (some deadline)).run.Follows signer.address (Informed signer)
      .started := by
  simp only [fetchFor, parameter, askBy, of, ExceptT.run_bind, ExceptT.run_mk, ExceptT.run_pure,
    bind_eq, bind_request, bind_done, pure_eq]
  have untold (f : Stop) : Informed signer .started (.error f) := ⟨trivial, by simp⟩
  have stopped (nonce : UInt64) (f : Stop) : Informed signer (.told nonce) (.error f) :=
    ⟨trivial, by simp⟩
  intro nonce
  rcases nonce with _ | _ | nonce
  · exact ⟨.started, .untold deadline none (by simp), untold _⟩
  · exact ⟨.started, .untold deadline _ (by simp), untold _⟩
  -- From here on the nonce is known.
  refine ⟨.told nonce, .told deadline nonce, ?_⟩
  refine follows_plain (Phase.turn_told nonce) rfl fun suggested => ?_
  rcases suggested with _ | _ | suggested
  · exact stopped nonce _
  · exact stopped nonce _
  refine follows_plain (Phase.turn_told nonce) rfl fun tip => ?_
  rcases tip with _ | _ | tip
  · exact stopped nonce _
  · exact stopped nonce _
  refine follows_plain (Phase.turn_told nonce) rfl fun chainId => ?_
  rcases chainId with _ | _ | chainId
  · exact stopped nonce _
  · exact stopped nonce _
  · exact ⟨trivial, by rintro known ⟨⟩; exact ⟨rfl, rfl⟩⟩

/-- With the nonce one hands one transaction over. -/
theorem send_follows (s : Submission) (p : Transaction.Parameters) (deadline : Millis) :
    (s.send p deadline).Follows p.signer.address (fun phase _ => phase.Turn)
      (.told p.nonce) := by
  simp only [send, of, bind_eq, bind_request, bind_done, pure_eq]
  intro reply
  refine ⟨.spent, .hand deadline p.signer (p.complete s.recipient s.input) reply rfl, ?_⟩
  rcases reply with _ | _ | hash <;> exact trivial

/-- All this happens in one's turn. -/
theorem sendInTurn_follows (s : Submission) (signer : SecretKey) (deadline : Millis) :
    (s.sendInTurn signer deadline).Follows signer.address (fun phase _ => phase.Turn)
      .started := by
  simp only [sendInTurn, bind_eq]
  refine (fetchFor_follows signer s.value deadline).bind fun phase result informed => ?_
  obtain ⟨turn, known⟩ := informed
  cases result with
  | error stop => cases stop <;> exact turn
  | ok p =>
    obtain ⟨rfl, rfl⟩ := known p rfl
    exact s.send_follows p deadline

theorem sendBefore_follows (s : Submission) (signer : SecretKey) (deadline : Option Millis) :
    (s.sendBefore signer deadline).Follows signer.address (fun phase _ => phase.Turn)
      .started := by
  cases deadline with
  | none => exact trivial
  | some time => exact s.sendInTurn_follows signer time

/-- A submission keeps to its turn, and passes it on whatever happens. -/
theorem submit_follows (s : Submission) (timeLimit : Millis) :
    (s.submit timeLimit).Follows s.account Settled .before := by
  cases key : s.key.secret with
  | error f =>
    rw [submit_unsigned key]
    exact .inl rfl
  | ok signer =>
    have account : s.account = signer.address := by
      simp [Submission.account, KeyText.address, key, Except.map]
    rw [account, submit_signed key]
    refine fun _ => ⟨.started, .enter, fun start => ⟨.started, .clock Phase.turn_started start, ?_⟩⟩
    refine (s.sendBefore_follows signer (Millis.after? start timeLimit)).bind ?_
    intro phase result turn
    exact fun _ => ⟨.finished, .leave turn, .inr rfl⟩

end Submission

section

variable {α : Type}

def Stage.rest : Stage α → Workflow α
  | .ready plan => plan
  | .waiting q next => .request q next
  | .answered _ next answer => next answer

def Stage.open? : Stage α → Option Request
  | .ready _ => none
  | .waiting q _ | .answered q _ _ => some q

namespace Party

/-- The requests that were served, also if the answer is still on its way. -/
def served (party : Party α) : List Request :=
  party.past.map Event.request ++
    match party.stage with
    | .answered q _ _ => [q]
    | _ => []

def made (party : Party α) : List Request :=
  party.past.map Event.request ++ party.stage.open?.toList

/-- From the question for the nonce of an account on, until the turn is passed on. -/
def Busy (party : Party α) (account : Address) : Prop :=
  (∃ deadline, .askUntil deadline (.pendingNonce account) ∈ party.made) ∧
    .leave account ∉ party.served

def Queues (party : Party α) (account : Address) : Prop :=
  ∃ next, party.stage = .waiting (.enter account) next

def HandedOver (party : Party α) (tx : Transaction) : Prop :=
  ∃ deadline signer, .askUntil deadline (.send signer tx) ∈ party.served

section

variable {past : Trace} {q : Request} {next : q.Answer → Workflow α} {answer : q.Answer}

@[simp] theorem served_ready (plan : Workflow α) :
    (⟨past, .ready plan⟩ : Party α).served = past.map Event.request :=
  List.append_nil _

@[simp] theorem served_waiting :
    (⟨past, .waiting q next⟩ : Party α).served = past.map Event.request :=
  List.append_nil _

@[simp] theorem served_answered :
    (⟨past, .answered q next answer⟩ : Party α).served = past.map Event.request ++ [q] := rfl

@[simp] theorem made_ready (plan : Workflow α) :
    (⟨past, .ready plan⟩ : Party α).made = past.map Event.request :=
  List.append_nil _

end

/-- A request that was made was served, or waits to be. -/
theorem served_or_waiting (party : Party α) {q : Request} (h : q ∈ party.made) :
    q ∈ party.served ∨ ∃ next, party.stage = .waiting q next := by
  obtain ⟨past, stage⟩ := party
  cases stage with
  | ready plan => exact .inl (by simpa using h)
  | answered q' next answer => exact .inl h
  | waiting q' next =>
    rcases List.mem_append.mp h with earlier | now
    · exact .inl (by simpa using earlier)
    · obtain rfl := List.mem_singleton.mp now
      exact .inr ⟨next, rfl⟩

structure Obeys (account : Address) (post : Phase → α → Prop) (p : Phase) (party : Party α) :
    Prop where
  follows : party.stage.rest.Follows account post p
  own : ∀ deadline b, .askUntil deadline (.pendingNonce b) ∈ party.served → b = account
  unasked : p = .before → ∀ deadline, .askUntil deadline (.pendingNonce account) ∉ party.served
  asked : ∀ nonce, p = .told nonce →
    ∃ deadline, .askUntil deadline (.pendingNonce account) ∈ party.served
  left : .leave account ∈ party.served ↔ p = .finished

namespace Obeys

variable {account : Address} {post : Phase → α → Prop} {p p' : Phase} {past : Trace} {q : Request}
  {next : q.Answer → Workflow α} {answer : q.Answer}

theorem start {plan : Workflow α} (h : plan.Follows account post .before) :
    Obeys account post .before ⟨[], .ready plan⟩ where
  follows := h
  own _ _ := by simp
  unasked _ := by simp
  asked nonce h := by cases h
  left := by simp

theorem made (h : Obeys account post p ⟨past, .ready (.request q next)⟩) :
    Obeys account post p ⟨past, .waiting q next⟩ :=
  ⟨h.follows, h.own, h.unasked, h.asked, h.left⟩

theorem delivered (h : Obeys account post p ⟨past, .answered q next answer⟩) :
    Obeys account post p ⟨past ++ [⟨q, answer⟩], .ready (next answer)⟩ := by
  obtain ⟨follows, own, unasked, asked, left⟩ := h
  constructor
  · exact follows
  · simpa using own
  · simpa using unasked
  · simpa using asked
  · simpa using left

theorem served (h : Obeys account post p ⟨past, .waiting q next⟩)
    (follows : (next answer).Follows account post p')
    (goes : p.Goes account ⟨q, answer⟩ p') :
    Obeys account post p' ⟨past, .answered q next answer⟩ := by
  obtain ⟨-, own, -, asked, left⟩ := h
  refine ⟨follows, ?_, fun h => absurd h goes.ne_before, ?_, ?_⟩
  · intro deadline b asks
    rw [served_answered, List.mem_append, List.mem_singleton] at asks
    rcases asks with earlier | now
    · exact own deadline b (by rwa [served_waiting])
    · exact goes.asks now.symm
  · rintro nonce rfl
    rcases goes.asks_of_told with rfl | ⟨deadline, asks⟩
    · obtain ⟨deadline, earlier⟩ := asked nonce rfl
      rw [served_waiting] at earlier
      exact ⟨deadline, List.mem_append_left [q] earlier⟩
    · exact ⟨deadline, by simpa using .inr asks.symm⟩
  · have going : .leave account ∉ past.map Event.request := by
      rw [served_waiting] at left
      exact fun h => goes.not_finished (left.mp h)
    rw [served_answered, List.mem_append, List.mem_singleton, ← goes.leaves_iff]
    simp only [going, false_or]
    exact eq_comm

/-- Who asks for the nonce of an account has a turn until it is passed on. -/
theorem turn_of_busy {party : Party α} {b : Address} (h : Obeys account post p party)
    (busy : party.Busy b) : b = account ∧ p.Turn := by
  obtain ⟨⟨deadline, asks⟩, staying⟩ := busy
  rcases party.served_or_waiting asks with asked | ⟨next, waits⟩
  · obtain rfl := h.own deadline b asked
    cases p with
    | before => exact absurd asked (h.unasked rfl deadline)
    | finished => exact absurd (h.left.mpr rfl) staying
    | started | told | spent => exact ⟨rfl, trivial⟩
  · -- The question is not served, and nobody asks unless the turn has come.
    have follows := h.follows
    rw [waits] at follows
    obtain ⟨p', goes, -⟩ := follows none
    cases goes with
    | untold => exact ⟨rfl, trivial⟩
    | plain _ _ _ plain => cases plain

theorem queues {party : Party α} {b : Address} (h : Obeys account post p party)
    (waits : party.Queues b) : b = account ∧ ¬ p.Turn := by
  obtain ⟨next, waits⟩ := waits
  have follows := h.follows
  rw [waits] at follows
  obtain ⟨p', goes, -⟩ := follows ()
  exact goes.enters

theorem busy_of_sending {deadline : Millis} {signer : SecretKey} {tx : Transaction}
    {next : Option (Node.Call.send signer tx).Answer → Workflow α}
    (h : Obeys account post p ⟨past, .waiting (.askUntil deadline (.send signer tx)) next⟩) :
    (⟨past, .waiting (.askUntil deadline (.send signer tx)) next⟩ : Party α).Busy tx.sender := by
  obtain ⟨p', goes, -⟩ := h.follows none
  cases goes with
  | hand _ _ _ _ sender =>
    subst sender
    refine ⟨?_, fun leaves => ?_⟩
    · obtain ⟨earlier, asked⟩ := h.asked tx.nonce rfl
      rw [served_waiting] at asked
      exact ⟨earlier, List.mem_append_left _ asked⟩
    · cases h.left.mp leaves
  | plain _ _ _ plain => cases plain

end Obeys

end Party

end

end ProviderWallet
