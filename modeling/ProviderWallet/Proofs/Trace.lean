import ProviderWallet.Workflow

namespace ProviderWallet

structure Event where
  request : Request
  answer : request.Answer

abbrev Trace := List Event

/-- What is answered to a request after all that happened before. What holds for every outside holds
for every node, every clock and every delay. -/
abbrev Outside := Trace → (q : Request) → q.Answer

/-- What the node is told or asked about a transaction. There is no reply if the deadline passes
before. -/
inductive Act where
  /-- A transaction is handed over. -/
  | hand (tx : Transaction) (reply : Option (Except String TxHash))
  /-- A receipt is looked up. -/
  | look (hash : TxHash) (reply : Option (Except String (Option Confirmation.Receipt)))

namespace Act

def absent (hash : TxHash) : Act := .look hash (some (.ok none))

def success (hash : TxHash) : Act := .look hash (some (.ok (some .success)))

def failure (hash : TxHash) : Act := .look hash (some (.ok (some .failure)))

def unknown (hash : TxHash) (reason : String) : Act := .look hash (some (.error reason))

def handed? : Act → Option Transaction
  | hand tx _ => some tx
  | look .. => none

end Act

def Event.act? : Event → Option Act
  | ⟨.ask (.send _ tx), reply⟩ => some (.hand tx (some reply))
  | ⟨.askUntil _ (.send _ tx), reply⟩ => some (.hand tx reply)
  | ⟨.ask (.receipt hash), reply⟩ => some (.look hash (some reply))
  | ⟨.askUntil _ (.receipt hash), reply⟩ => some (.look hash reply)
  | _ => none

def Trace.acts (trace : Trace) : List Act :=
  trace.filterMap Event.act?

@[simp] theorem acts_nil : Trace.acts [] = [] := rfl

@[simp] theorem acts_append (t u : Trace) : Trace.acts (t ++ u) = t.acts ++ u.acts := by
  simp [Trace.acts]

theorem acts_cons (event : Event) (trace : Trace) :
    Trace.acts (event :: trace) = event.act?.toList ++ trace.acts := by
  cases h : event.act? <;> simp [Trace.acts, h]

def handed (acts : List Act) : List Transaction :=
  acts.filterMap Act.handed?

@[simp] theorem handed_nil : handed [] = [] := rfl

@[simp] theorem handed_append (as bs : List Act) : handed (as ++ bs) = handed as ++ handed bs := by
  simp [handed]

@[simp] theorem handed_hand (tx : Transaction) (reply : Option (Except String TxHash))
    (acts : List Act) : handed (.hand tx reply :: acts) = tx :: handed acts := rfl

@[simp] theorem handed_look (hash : TxHash)
    (reply : Option (Except String (Option Confirmation.Receipt))) (acts : List Act) :
    handed (.look hash reply :: acts) = handed acts := rfl

@[simp] theorem handed_absent (hash : TxHash) (n : Nat) :
    handed (List.replicate n (.absent hash)) = [] := by
  induction n with
  | zero => rfl
  | succ n ih => exact ih

namespace Workflow

variable {α β : Type}

def playFrom (outside : Outside) (past : Trace) : Workflow α → α × Trace
  | done a => (a, [])
  | request q next =>
    let event : Event := ⟨q, outside past q⟩
    let (a, trace) := playFrom outside (past ++ [event]) (next event.answer)
    (a, event :: trace)

def play (outside : Outside) (w : Workflow α) : α × Trace :=
  w.playFrom outside []

/-- A workflow that goes on does what it did first and then the rest. -/
theorem playFrom_bind (outside : Outside) (past : Trace) (w : Workflow α) (f : α → Workflow β) :
    (w.bind f).playFrom outside past =
      let (a, first) := w.playFrom outside past
      let (b, rest) := (f a).playFrom outside (past ++ first)
      (b, first ++ rest) := by
  induction w generalizing past with
  | done a => simp [playFrom]
  | request q next ih => simp [playFrom, ih]

/-- Whatever the outside answers, what happens and the result are as stated. -/
def Yields (w : Workflow α) (post : Trace → α → Prop) : Prop :=
  ∀ outside past, post (w.playFrom outside past).2 (w.playFrom outside past).1

section

variable {post : Trace → α → Prop}

theorem yields_done {a : α} (h : post [] a) : (done a).Yields post := fun _ _ => h

theorem yields_request {q : Request} {next : q.Answer → Workflow α}
    (h : ∀ answer, (next answer).Yields fun trace a => post (⟨q, answer⟩ :: trace) a) :
    (request q next).Yields post := fun _ _ => h _ _ _

theorem Yields.mono {post' : Trace → α → Prop} {w : Workflow α} (h : w.Yields post)
    (imp : ∀ trace a, post trace a → post' trace a) : w.Yields post' :=
  fun outside past => imp _ _ (h outside past)

theorem Yields.and {post' : Trace → α → Prop} {w : Workflow α} (h : w.Yields post)
    (h' : w.Yields post') : w.Yields fun trace a => post trace a ∧ post' trace a :=
  fun outside past => ⟨h outside past, h' outside past⟩

/-- What happens first and what happens then, one after the other. -/
theorem Yields.bind {post' : Trace → β → Prop} {w : Workflow α} {f : α → Workflow β}
    (h : w.Yields post)
    (rest : ∀ first a, post first a → (f a).Yields fun trace b => post' (first ++ trace) b) :
    (w.bind f).Yields post' := by
  intro outside past
  rw [playFrom_bind]
  exact rest _ _ (h outside past) _ _

end

/-- Whatever the outside answers, what happens about transactions and the result are as stated. -/
def Does (w : Workflow α) (post : List Act → α → Prop) : Prop :=
  w.Yields fun trace a => post trace.acts a

section

variable {post : List Act → α → Prop}

theorem Does.play {w : Workflow α} (h : w.Does post) (outside : Outside) :
    post (w.play outside).2.acts (w.play outside).1 := h outside []

theorem does_done {a : α} (h : post [] a) : (done a).Does post := yields_done h

theorem does_request {q : Request} {next : q.Answer → Workflow α}
    (h : ∀ answer, (next answer).Does fun acts a =>
      post ((Event.act? ⟨q, answer⟩).toList ++ acts) a) : (request q next).Does post :=
  yields_request fun answer => (h answer).mono fun trace a holds => by
    rw [acts_cons]
    exact holds

/-- A request that has nothing to do with transactions leaves no mark. -/
theorem does_quiet {q : Request} {next : q.Answer → Workflow α}
    (quiet : ∀ answer, Event.act? ⟨q, answer⟩ = none)
    (h : ∀ answer, (next answer).Does post) : (request q next).Does post :=
  does_request fun answer => by simpa [quiet answer] using h answer

theorem Does.mono {post' : List Act → α → Prop} {w : Workflow α} (h : w.Does post)
    (imp : ∀ acts a, post acts a → post' acts a) : w.Does post' :=
  Yields.mono h fun trace a => imp trace.acts a

/-- The same about transactions alone. -/
theorem Does.bind {post' : List Act → β → Prop} {w : Workflow α} {f : α → Workflow β}
    (h : w.Does post)
    (rest : ∀ first a, post first a → (f a).Does fun acts b => post' (first ++ acts) b) :
    (w.bind f).Does post' := by
  refine Yields.bind h fun first a holds => ?_
  refine Yields.mono (rest _ a holds) fun trace b later => ?_
  rw [acts_append]
  exact later

end

end Workflow

end ProviderWallet
