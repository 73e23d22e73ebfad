import ProviderWallet.Rehearsal.World

namespace ProviderWallet.Rehearsal

structure Made where
  number : Nat
  wait : Wait
  deriving DecidableEq, Repr

structure Task (α : Type) where
  plan : Workflow α
  made : Option Made

namespace Task

variable {α : Type}

def result? (t : Task α) : Option α :=
  match t.plan with
  | .done a => some a
  | .request .. => none

inductive Steps : Task α → Task α → Prop where
  | make {plan : Workflow α} (m : Made) : Steps ⟨plan, some m⟩ ⟨plan, none⟩
  | answer {q : Request} {next : q.Answer → Workflow α} (a : q.Answer) (m : Option Made) :
    Steps ⟨next a, none⟩ ⟨.request q next, m⟩

theorem acc (t : Task α) : Acc Steps t := by
  obtain ⟨plan, made⟩ := t
  induction plan generalizing made with
  | done a =>
    have waiting (m : Made) : Acc Steps (⟨.done a, some m⟩ : Task α) :=
      ⟨_, fun _ h => nomatch h⟩
    cases made with
    | some m => exact waiting m
    | none => exact ⟨_, fun _ h => by cases h with | make m => exact waiting m⟩
  | request q next ih =>
    have waiting (m : Made) : Acc Steps (⟨.request q next, some m⟩ : Task α) :=
      ⟨_, fun _ h => by cases h with | answer a _ => exact ih a none⟩
    cases made with
    | some m => exact waiting m
    | none =>
      exact ⟨_, fun _ h => by
        cases h with
        | make m => exact waiting m
        | answer a _ => exact ih a none⟩

end Task

inductive Steps {α : Type} : List (Task α) → List (Task α) → Prop where
  | here {t' t : Task α} {ts : List (Task α)} (h : Task.Steps t' t) : Steps (t' :: ts) (t :: ts)
  | there {t : Task α} {ts' ts : List (Task α)} (h : Steps ts' ts) : Steps (t :: ts') (t :: ts)

theorem Steps.acc {α : Type} (ts : List (Task α)) : Acc Steps ts := by
  induction ts with
  | nil => exact ⟨_, fun _ h => nomatch h⟩
  | cons t ts ih =>
    have ht := t.acc
    induction ht generalizing ts with
    | intro t _ iht =>
      induction ih with
      | intro ts hts ihts =>
        refine ⟨_, fun _ h => ?_⟩
        cases h with
        | here h => exact iht _ h ts ⟨ts, hts⟩
        | there h => exact ihts _ h

instance {α : Type} : WellFoundedRelation (List (Task α)) :=
  ⟨Steps, ⟨Steps.acc⟩⟩

theorem Steps.set {α : Type} {ts : List (Task α)} {i : Nat} {t t' : Task α}
    (found : ts[i]? = some t) (h : Task.Steps t' t) : Steps (ts.set i t') ts := by
  induction ts generalizing i with
  | nil => simp at found
  | cons u ts ih =>
    cases i with
    | zero =>
      simp only [List.getElem?_cons_zero, Option.some.injEq] at found
      subst found
      exact .here h
    | succ i =>
      simp only [List.getElem?_cons_succ] at found
      exact .there (ih found)

/-- Tasks that run together on one clock, and the one that ran last. Each goes on in its turn until
it has to wait, and the clock moves only when all of them wait. -/
structure Pool (α : Type) where
  world : World
  tasks : List (Task α)
  current : Nat

namespace Pool

variable {α : Type}

def ofWorkflows (world : World) (plans : List (Workflow α)) : Pool α :=
  ⟨world, plans.map fun plan => ⟨plan, none⟩, 0⟩

def canGoOn (world : World) (i : Nat) (t : Task α) : Bool :=
  match t.plan, t.made with
  | .done _, _ => false
  | .request .., none => true
  | .request .., some m => world.isOver i m.wait

def firstFrom (p : Pool α) (start : Nat) : Option Nat :=
  ((p.tasks.zipIdx.drop start).find? fun (t, i) => canGoOn p.world i t).map Prod.snd

def wakes (p : Pool α) : List Millis :=
  p.tasks.filterMap fun t =>
    match t.plan, t.made with
    | .request .., some ⟨_, .time wake _⟩ => some wake
    | _, _ => none

def moveClock (p : Pool α) : Pool α :=
  match p.wakes.min? with
  | some wake => { p with world := { p.world with now := max p.world.now wake } }
  | none => p

/-- The task whose turn it is, after the clock has moved if it has to. -/
def choose (p : Pool α) : Option (Nat × World) :=
  match p.firstFrom p.current <|> p.firstFrom 0 with
  | some i => some (i, p.world)
  | none => (p.moveClock.firstFrom 0).map (·, p.moveClock.world)

def numberOf (world : World) : Request → Nat
  | .ask call | .askUntil _ call => world.count call
  | _ => 0

def isGivenUp : Wait → Bool
  | .time _ givenUp => givenUp
  | .turn _ => false

def advance (world : World) (i : Nat) (t : Task α) : Option (Task α × World) :=
  match t.plan, t.made with
  | .done _, _ => none
  | .request q next, none =>
    let (wait, world') := world.begin i q
    some (⟨.request q next, some ⟨numberOf world q, wait⟩⟩, world')
  | .request q next, some m =>
    let (answer, world) := world.finish m.number (isGivenUp m.wait) q
    some (⟨next answer, none⟩, world)

theorem steps_advance {world world' : World} {i : Nat} {t t' : Task α}
    (h : advance world i t = some (t', world')) : Task.Steps t' t := by
  obtain ⟨plan, made⟩ := t
  cases plan with
  | done a => simp [advance] at h
  | request q next =>
    cases made with
    | none =>
      simp only [advance, Option.some.injEq, Prod.mk.injEq] at h
      rw [← h.1]
      exact .make _
    | some m =>
      simp only [advance, Option.some.injEq, Prod.mk.injEq] at h
      rw [← h.1]
      exact .answer _ _

def step (p : Pool α) : Option (Pool α) := do
  let (i, world) ← p.choose
  let t ← p.tasks[i]?
  let (t, world) ← advance world i t
  return ⟨world, p.tasks.set i t, i⟩

theorem steps_step {p p' : Pool α} (h : p.step = some p') : Steps p'.tasks p.tasks := by
  simp only [step, Option.bind_eq_bind, Option.bind_eq_some_iff, Option.pure_def,
    Option.some.injEq, Prod.exists] at h
  obtain ⟨i, world, _, t, found, t', world', advanced, rfl⟩ := h
  exact Steps.set found (steps_advance advanced)

def run (p : Pool α) : Pool α :=
  match _h : p.step with
  | none => p
  | some p' => run p'
termination_by p.tasks
decreasing_by exact steps_step _h

def results (p : Pool α) : List (Option α) :=
  p.tasks.map Task.result?

end Pool

/-- Runs workflows together. A workflow that waits for its turn for ever has no result. -/
def together {α : Type} (world : World) (plans : List (Workflow α)) :
    List (Option α) × World :=
  let p := (Pool.ofWorkflows world plans).run
  (p.results, p.world)

end ProviderWallet.Rehearsal
