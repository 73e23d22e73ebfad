import Mathlib.Data.DFinsupp.WellFounded
import Mathlib.Logic.Relation
import ProviderWallet.Proofs.Trace

namespace ProviderWallet

inductive Stage (α : Type) where
  | ready (plan : Workflow α)
  /-- A request was made. -/
  | waiting (q : Request) (next : q.Answer → Workflow α)
  /-- The request was served, and the answer is on its way. -/
  | answered (q : Request) (next : q.Answer → Workflow α) (answer : q.Answer)

structure Party (α : Type) where
  past : Trace
  stage : Stage α

/-- What the workflows share, each of them named by a number below `n`. -/
structure Site (n : Nat) where
  /-- For each account who sends its transactions, the first of the list, and who is next. -/
  turns : Address → List (Fin n)
  /-- The transactions that the node has accepted, the first one first, and whose they are. -/
  accepted : List (Fin n × Transaction)
  /-- Whose transactions the node has rejected. -/
  rejected : List (Fin n)

namespace Site

variable {n : Nat}

def acceptedFrom (site : Site n) (account : Address) : List Transaction :=
  (site.accepted.map Prod.snd).filter (·.sender = account)

def join (site : Site n) (i : Fin n) : Request → Site n
  | .enter account =>
    { site with turns := Function.update site.turns account (site.turns account ++ [i]) }
  | _ => site

def pass (site : Site n) (account : Address) : Site n :=
  { site with turns := Function.update site.turns account (site.turns account).tail }

def accept (site : Site n) (i : Fin n) (tx : Transaction) : Site n :=
  { site with accepted := site.accepted ++ [(i, tx)] }

def reject (site : Site n) (i : Fin n) : Site n :=
  { site with rejected := site.rejected ++ [i] }

end Site

def Node.Call.isPlain : Node.Call → Bool
  | .pendingNonce _ | .send .. => false
  | _ => true

def Node.Call.isSend : Node.Call → Bool
  | .send .. => true
  | _ => false

/-- What the node may reply. It knows how many transactions of an account it has accepted beyond a
base. A transaction that it accepts may be lost to the sender. -/
inductive Replies {n : Nat} (base : Address → Nat) (i : Fin n) :
    Site n → (call : Node.Call) → call.Answer → Site n → Prop where
  | nonce {site : Site n} {account : Address} {k : UInt64}
      (count : k.toNat = base account + (site.acceptedFrom account).length) :
      Replies base i site (.pendingNonce account) (.ok k) site
  | plain {site : Site n} {call : Node.Call} (h : call.isPlain) (reply : call.Reply) :
      Replies base i site call (.ok reply) site
  | fails {site : Site n} {call : Node.Call} (h : call.isSend = false) (reason : String) :
      Replies base i site call (.error reason) site
  | accepts {site : Site n} (signer : SecretKey) (tx : Transaction) (hash : TxHash) :
      Replies base i site (.send signer tx) (.ok hash) (site.accept i tx)
  | loses {site : Site n} (signer : SecretKey) (tx : Transaction) (reason : String) :
      Replies base i site (.send signer tx) (.error reason) (site.accept i tx)
  | rejects {site : Site n} (signer : SecretKey) (tx : Transaction) (reason : String) :
      Replies base i site (.send signer tx) (.error reason) (site.reject i)

/-- How a request may be served. The clock may show anything, and a question may come too late,
but no transaction is given up while it is handed over. -/
inductive Serves {n : Nat} (base : Address → Nat) (i : Fin n) :
    Site n → (q : Request) → q.Answer → Site n → Prop where
  | ask {site site' : Site n} {call : Node.Call} {reply : call.Answer}
      (replies : Replies base i site call reply site') :
      Serves base i site (.ask call) reply site'
  | askUntil {site site' : Site n} {call : Node.Call} {reply : call.Answer} (deadline : Millis)
      (replies : Replies base i site call reply site') :
      Serves base i site (.askUntil deadline call) (some reply) site'
  | late {site : Site n} {call : Node.Call} (deadline : Millis) (h : call.isSend = false) :
      Serves base i site (.askUntil deadline call) none site
  | fetch {site : Site n} (page : Hub.Page) (answer : Hub.Answer) :
      Serves base i site (.fetch page) answer site
  | sleep {site : Site n} (span : Millis) : Serves base i site (.sleep span) () site
  | clock {site : Site n} (time : Millis) : Serves base i site .clock time site
  | enter {site : Site n} {account : Address} (first : (site.turns account).head? = some i) :
      Serves base i site (.enter account) () site
  | leave {site : Site n} (account : Address) :
      Serves base i site (.leave account) () (site.pass account)

/-- The node can always reply. -/
theorem exists_replies {n : Nat} (base : Address → Nat) (i : Fin n) (site : Site n)
    (call : Node.Call) : ∃ reply site', Replies base i site call reply site' := by
  cases call with
  | send signer tx => exact ⟨_, _, .rejects signer tx ""⟩
  | _ => exact ⟨_, _, .fails rfl ""⟩

/-- Nobody but those who wait for a turn is ever kept waiting. -/
theorem exists_serves {n : Nat} (base : Address → Nat) (i : Fin n) (site : Site n) (q : Request)
    (h : ∀ account, q ≠ .enter account) : ∃ answer site', Serves base i site q answer site' := by
  cases q with
  | ask call =>
    obtain ⟨reply, site', replies⟩ := exists_replies base i site call
    exact ⟨reply, site', .ask replies⟩
  | askUntil deadline call =>
    obtain ⟨reply, site', replies⟩ := exists_replies base i site call
    exact ⟨some reply, site', .askUntil deadline replies⟩
  | fetch page => exact ⟨.error "", site, .fetch page _⟩
  | sleep span => exact ⟨(), site, .sleep span⟩
  | clock => exact ⟨0, site, .clock 0⟩
  | enter account => exact absurd rfl (h account)
  | leave account => exact ⟨(), site.pass account, .leave account⟩

/-- Several workflows and what they share. -/
structure Traffic (n : Nat) (α : Type) where
  parties : Fin n → Party α
  site : Site n

namespace Traffic

variable {n : Nat} {α : Type}

def start (plans : Fin n → Workflow α) : Traffic n α where
  parties i := ⟨[], .ready (plans i)⟩
  site := ⟨fun _ => [], [], []⟩

def set (t : Traffic n α) (i : Fin n) (party : Party α) (site : Site n) : Traffic n α :=
  ⟨Function.update t.parties i party, site⟩

/-- One step of one of the workflows: a request is made, or it is served, or its answer arrives.
Between any two of these the others may go on. -/
inductive Step (base : Address → Nat) : Traffic n α → Traffic n α → Prop where
  | make {t : Traffic n α} (i : Fin n) {past : Trace} {q : Request}
      {next : q.Answer → Workflow α} (found : t.parties i = ⟨past, .ready (.request q next)⟩) :
      Step base t (t.set i ⟨past, .waiting q next⟩ (t.site.join i q))
  | serve {t : Traffic n α} (i : Fin n) {past : Trace} {q : Request}
      {next : q.Answer → Workflow α} {answer : q.Answer} {site : Site n}
      (found : t.parties i = ⟨past, .waiting q next⟩)
      (serves : Serves base i t.site q answer site) :
      Step base t (t.set i ⟨past, .answered q next answer⟩ site)
  | deliver {t : Traffic n α} (i : Fin n) {past : Trace} {q : Request}
      {next : q.Answer → Workflow α} {answer : q.Answer}
      (found : t.parties i = ⟨past, .answered q next answer⟩) :
      Step base t (t.set i ⟨past ++ [⟨q, answer⟩], .ready (next answer)⟩ t.site)

def Reachable (base : Address → Nat) (plans : Fin n → Workflow α) : Traffic n α → Prop :=
  Relation.ReflTransGen (Step base) (start plans)

def Ended (t : Traffic n α) (i : Fin n) : Prop :=
  ∃ a, (t.parties i).stage = .ready (.done a)

@[simp] theorem site_set (t : Traffic n α) (i : Fin n) (party : Party α) (site : Site n) :
    (t.set i party site).site = site := rfl

@[simp] theorem parties_set_self (t : Traffic n α) (i : Fin n) (party : Party α) (site : Site n) :
    (t.set i party site).parties i = party := Function.update_self ..

theorem parties_set_of_ne (t : Traffic n α) {i j : Fin n} (h : j ≠ i) (party : Party α)
    (site : Site n) : (t.set i party site).parties j = t.parties j :=
  Function.update_of_ne h ..

@[simp] theorem set_set (t : Traffic n α) (i : Fin n) (party party' : Party α)
    (site site' : Site n) : (t.set i party site).set i party' site' = t.set i party' site' := by
  simp [set]

/-- A request is made, served and answered before the others go on. -/
theorem round {base : Address → Nat} {t : Traffic n α} (i : Fin n) {past : Trace} {q : Request}
    {next : q.Answer → Workflow α} {answer : q.Answer} {site : Site n}
    (found : t.parties i = ⟨past, .ready (.request q next)⟩)
    (serves : Serves base i (t.site.join i q) q answer site) :
    Relation.ReflTransGen (Step base) t
      (t.set i ⟨past ++ [⟨q, answer⟩], .ready (next answer)⟩ site) := by
  have made : Step base t _ := .make i found
  have served := Step.serve (t := t.set i ⟨past, .waiting q next⟩ (t.site.join i q)) i
    (parties_set_self ..) serves
  have delivered : Step base _ _ := .deliver
    (t := t.set i ⟨past, .answered q next answer⟩ site) i (parties_set_self ..)
  rw [set_set] at served delivered
  exact ((Relation.ReflTransGen.single made).tail served).tail delivered

/-- Who neither has a result nor waits for a turn may take a step. -/
theorem exists_step (base : Address → Nat) {t : Traffic n α} {i : Fin n} (going : ¬ t.Ended i)
    (h : ∀ account next, (t.parties i).stage ≠ .waiting (.enter account) next) :
    ∃ t', Step base t t' := by
  generalize found : t.parties i = party at h
  obtain ⟨past, stage⟩ := party
  cases stage with
  | ready plan =>
    cases plan with
    | done a => exact absurd ⟨a, by rw [found]⟩ going
    | request q next => exact ⟨_, .make i found⟩
  | waiting q next =>
    obtain ⟨answer, site, serves⟩ := exists_serves base i t.site q fun account entering => by
      subst entering
      exact h account next rfl
    exact ⟨_, .serve i found serves⟩
  | answered q next answer => exact ⟨_, .deliver i found⟩

inductive Advances : Stage α → Stage α → Prop where
  | make (q : Request) (next : q.Answer → Workflow α) :
    Advances (.waiting q next) (.ready (.request q next))
  | serve (q : Request) (next : q.Answer → Workflow α) (answer : q.Answer) :
    Advances (.answered q next answer) (.waiting q next)
  | deliver (q : Request) (next : q.Answer → Workflow α) (answer : q.Answer) :
    Advances (.ready (next answer)) (.answered q next answer)

/-- No workflow goes on for ever. -/
theorem advances_acc (stage : Stage α) : Acc Advances stage := by
  have ready (plan : Workflow α) : Acc Advances (.ready plan) := by
    induction plan with
    | done a => exact ⟨_, fun _ h => nomatch h⟩
    | request q next ih =>
      refine ⟨_, fun _ h => ?_⟩
      cases h
      refine ⟨_, fun _ h => ?_⟩
      cases h with
      | serve _ _ answer =>
        refine ⟨_, fun _ h => ?_⟩
        cases h
        exact ih answer
  have answered (q : Request) (next : q.Answer → Workflow α) (answer : q.Answer) :
      Acc Advances (.answered q next answer) := by
    refine ⟨_, fun _ h => ?_⟩
    cases h
    exact ready _
  cases stage with
  | ready plan => exact ready plan
  | waiting q next =>
    refine ⟨_, fun _ h => ?_⟩
    cases h
    exact answered _ _ _
  | answered q next answer => exact answered q next answer

/-- A step takes one of the workflows further and leaves the others where they were. -/
theorem Step.advances {base : Address → Nat} {t t' : Traffic n α} (h : Step base t t') :
    ∃ i, Advances (t'.parties i).stage (t.parties i).stage ∧
      ∀ j, j ≠ i → t'.parties j = t.parties j := by
  cases h with
  | make i found | serve i found | deliver i found =>
    refine ⟨i, ?_, fun j other => parties_set_of_ne t other _ _⟩
    rw [parties_set_self, found]
    constructor

/-- Workflows that run at the same time come to an end, whatever the order of their steps. -/
theorem step_wellFounded (base : Address → Nat) :
    WellFounded fun t' t : Traffic n α => Step base t t' := by
  have lex : WellFounded (Pi.Lex (· < ·) fun {_ : Fin n} => Advances (α := α)) :=
    Pi.Lex.wellFounded _ fun _ => ⟨advances_acc⟩
  refine Subrelation.wf ?_ (InvImage.wf (fun t : Traffic n α => fun i => (t.parties i).stage) lex)
  intro t' t h
  obtain ⟨i, advances, same⟩ := h.advances
  exact ⟨i, fun j before => congrArg Party.stage (same j before.ne), advances⟩

end Traffic

end ProviderWallet
