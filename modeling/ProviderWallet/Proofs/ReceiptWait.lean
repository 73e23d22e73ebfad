import Mathlib.Algebra.BigOperators.Group.Finset.Basic
import Mathlib.Algebra.Order.Floor.Div
import Mathlib.Order.Monotone.Basic
import ProviderWallet.Config.Basic
import ProviderWallet.Proofs.Timing

namespace ProviderWallet

open Workflow

structure Lookup where
  span : Millis
  answer : Except String (Option Confirmation.Receipt)

/-- How a wait ends with the answer to a lookup. It goes on if there is no receipt. -/
def Waiter.verdict? (hash : TxHash) :
    Except String (Option Confirmation.Receipt) → Option (Except Failure Unit)
  | .error reason => some (.error (.connection reason))
  | .ok none => none
  | .ok (some .success) => some (.ok ())
  | .ok (some .failure) => some (.error (.receiptFailed hash.text))

theorem Waiter.verdict?_eq_none {hash : TxHash}
    {answer : Except String (Option Confirmation.Receipt)} :
    verdict? hash answer = none ↔ answer = .ok none := by
  rcases answer with reason | _ | _ | _ <;> simp [verdict?]

def Event.looksUp (hash : TxHash) (event : Event) : Bool :=
  match event.request with
  | .ask (.receipt other) => other = hash
  | _ => false

def Trace.looks (hash : TxHash) (trace : Trace) : Nat :=
  trace.countP (Event.looksUp hash)

@[simp] theorem looks_append (hash : TxHash) (t u : Trace) :
    Trace.looks hash (t ++ u) = t.looks hash + u.looks hash :=
  List.countP_append

namespace Outside

/-- What the time is after all that happened, if to sleep takes as long as it should and to look at
the clock takes no time. -/
structure Paced (outside : Outside) (now : Trace → Millis) : Prop where
  clock : ∀ past, outside past .clock = now past ∧ now (past ++ [⟨.clock, now past⟩]) = now past
  sleep : ∀ past span, now (past ++ [⟨.sleep span, ()⟩]) = now past + span

/-- Whenever the receipt of a transaction is looked up after a past, it is the next of a sequence
of lookups. -/
def Shows (outside : Outside) (now : Trace → Millis) (past : Trace) (hash : TxHash)
    (lookups : Nat → Lookup) : Prop :=
  ∀ trace, let next := lookups (trace.looks hash)
    outside (past ++ trace) (.ask (.receipt hash)) = next.answer ∧
      now (past ++ trace ++ [⟨.ask (.receipt hash), next.answer⟩]) = now (past ++ trace) + next.span

end Outside

namespace Waiter

variable {w : Waiter} {hash : TxHash} {lookups : Nat → Lookup} {start : Millis} {j k n : Nat}

/-- When a lookup starts, from the beginning of the wait: before each lookup there is an interval,
and the lookups before it take their time. The first one has the number 0. -/
def startOf (w : Waiter) (lookups : Nat → Lookup) (k : Nat) : Nat :=
  (k + 1) * w.interval + ∑ j ∈ Finset.range k, (lookups j).span

theorem startOf_succ (w : Waiter) (lookups : Nat → Lookup) (k : Nat) :
    w.startOf lookups (k + 1) = w.startOf lookups k + (lookups k).span + w.interval := by
  rw [startOf, startOf, Finset.sum_range_succ, Nat.add_mul (k + 1)]
  omega

theorem startOf_zero (w : Waiter) (lookups : Nat → Lookup) : w.startOf lookups 0 = w.interval := by
  simp [startOf]

theorem le_startOf (w : Waiter) (lookups : Nat → Lookup) (k : Nat) :
    (k + 1) * w.interval ≤ w.startOf lookups k :=
  Nat.le_add_right _ _

/-- Lookups start one after the other. -/
theorem startOf_strictMono (positive : 0 < w.interval) : StrictMono (w.startOf lookups) := by
  apply strictMono_nat_of_lt_succ
  intro k
  rw [startOf_succ]
  exact Nat.lt_of_le_of_lt (Nat.le_add_right _ _) (Nat.lt_add_of_pos_right positive)

/-- All lookups before some number find nothing and start in time. -/
def Open (w : Waiter) (lookups : Nat → Lookup) (k : Nat) : Prop :=
  ∀ j < k, (lookups j).answer = .ok none ∧ w.startOf lookups j < w.timeout

theorem Open.succ (h : w.Open lookups k) (absent : (lookups k).answer = .ok none)
    (inTime : w.startOf lookups k < w.timeout) : w.Open lookups (k + 1) := by
  intro j before
  rcases Nat.lt_succ_iff_lt_or_eq.mp before with earlier | rfl
  · exact h j earlier
  · exact ⟨absent, inTime⟩

def pause (w : Waiter) (lookups : Nat → Lookup) (start : Millis) (k : Nat) : Trace :=
  [⟨.sleep w.interval, ()⟩, ⟨.clock, start + w.startOf lookups k⟩]

def history (w : Waiter) (hash : TxHash) (lookups : Nat → Lookup) (start : Millis) : Nat → Trace
  | 0 => [⟨.clock, start⟩]
  | k + 1 => history w hash lookups start k ++ w.pause lookups start k ++
      [⟨.ask (.receipt hash), (lookups k).answer⟩]

/-- How a wait may go. -/
inductive Course (w : Waiter) (hash : TxHash) (lookups : Nat → Lookup) (start : Millis) :
    Trace → Except Failure Unit → Prop where
  /-- It ends with a lookup. -/
  | decided (k : Nat) (before : w.Open lookups k) (inTime : w.startOf lookups k < w.timeout)
      {result : Except Failure Unit} (verdict : verdict? hash (lookups k).answer = some result) :
      Course w hash lookups start (w.history hash lookups start (k + 1)) result
  /-- It ends because the time is over. -/
  | expired (k : Nat) (before : w.Open lookups k) (late : w.timeout ≤ w.startOf lookups k) :
      Course w hash lookups start (w.history hash lookups start k ++ w.pause lookups start k)
        (.error (w.expired hash))

@[simp] theorem looks_pause (w : Waiter) (hash : TxHash) (lookups : Nat → Lookup) (start : Millis)
    (k : Nat) : (w.pause lookups start k).looks hash = 0 := rfl

@[simp] theorem looks_history (w : Waiter) (hash : TxHash) (lookups : Nat → Lookup)
    (start : Millis) (k : Nat) : (w.history hash lookups start k).looks hash = k := by
  induction k with
  | zero => rfl
  | succ k ih =>
    have one : Trace.looks hash [⟨.ask (.receipt hash), (lookups k).answer⟩] = 1 := by
      simp [Trace.looks, Event.looksUp]
    rw [history, looks_append, looks_append, ih, looks_pause, one]

section

variable {outside : Outside} {now : Trace → Nat} {past : Trace}

/-- When a pause is over, the next lookup starts. -/
theorem now_pause (paced : outside.Paced now) (time : now past + w.interval =
    start + w.startOf lookups k) :
    now (past ++ [⟨.sleep w.interval, ()⟩]) = start + w.startOf lookups k ∧
      now (past ++ w.pause lookups start k) = start + w.startOf lookups k := by
  have awake := paced.sleep past w.interval
  rw [time] at awake
  refine ⟨awake, ?_⟩
  have looked := (paced.clock (past ++ [⟨.sleep w.interval, ()⟩])).2
  rw [awake, List.append_assoc] at looked
  exact looked

/-- An interval after each lookup the next one starts. -/
theorem now_history (paced : outside.Paced now) (shown : outside.Shows now past hash lookups)
    (k : Nat) :
    now (past ++ w.history hash lookups (now past) k) + w.interval =
      now past + w.startOf lookups k := by
  induction k with
  | zero =>
    rw [history, (paced.clock past).2, startOf_zero]
  | succ k ih =>
    have ended := (shown (w.history hash lookups (now past) k ++ w.pause lookups (now past) k)).2
    rw [looks_append, looks_history, looks_pause, Nat.add_zero, ← List.append_assoc,
      (now_pause paced ih).2] at ended
    rw [history, ← List.append_assoc, ← List.append_assoc, ended, startOf_succ]
    omega

/-- A round: the time passes, and unless it is over there is a lookup, with which the wait ends or
after which it goes on. -/
theorem poll_succ (w : Waiter) (hash : TxHash) (start : Millis) (rounds : Nat) :
    w.poll hash start (rounds + 1) =
      request (.sleep w.interval) fun _ => request .clock fun time =>
        if start + w.timeout ≤ time then done (.error (w.expired hash))
        else request (.ask (.receipt hash)) fun answer =>
          match verdict? hash answer with
          | some result => done result
          | none => w.poll hash start rounds := by
  simp only [poll, of, bind_eq, bind_request, bind_done, pure_eq]
  congr; funext _; congr; funext time
  split
  · rfl
  · congr; funext answer
    rcases answer with reason | _ | _ | _ <;> rfl

/-- What comes of a round after some number of lookups, and of those after it. -/
theorem playFrom_poll (paced : outside.Paced now) (shown : outside.Shows now past hash lookups)
    (k rounds : Nat) :
    (w.poll hash (now past) (rounds + 1)).playFrom outside
        (past ++ w.history hash lookups (now past) k) =
      if w.timeout ≤ w.startOf lookups k then
        (.error (w.expired hash), w.pause lookups (now past) k)
      else
        let (result, rest) := (match verdict? hash (lookups k).answer with
          | some result => done result
          | none => w.poll hash (now past) rounds).playFrom outside
            (past ++ w.history hash lookups (now past) (k + 1))
        (result, w.pause lookups (now past) k ++
          ⟨.ask (.receipt hash), (lookups k).answer⟩ :: rest) := by
  obtain ⟨awake, paused⟩ := now_pause paced (now_history (w := w) paced shown k)
  have clock := (paced.clock (past ++ w.history hash lookups (now past) k ++
    [⟨.sleep w.interval, ()⟩])).1
  rw [awake] at clock
  have answer := (shown (w.history hash lookups (now past) k ++ w.pause lookups (now past) k)).1
  rw [looks_append, looks_history, looks_pause, Nat.add_zero, ← List.append_assoc] at answer
  simp only [poll_succ, playFrom, clock]
  by_cases late : w.timeout ≤ w.startOf lookups k
  · rw [if_pos late, if_pos (Nat.add_le_add_left late _)]
    rfl
  · rw [if_neg late, if_neg fun expired => late (Nat.le_of_add_le_add_left expired)]
    have cut : past ++ w.history hash lookups (now past) k ++
          [⟨.sleep w.interval, outside (past ++ w.history hash lookups (now past) k)
            (.sleep w.interval)⟩] ++ [⟨.clock, now past + w.startOf lookups k⟩] =
        past ++ w.history hash lookups (now past) k ++ w.pause lookups (now past) k := by
      rw [List.append_assoc _ [_] [_]]
      rfl
    rw [cut]
    simp only [playFrom, answer]
    rw [history, ← List.append_assoc, ← List.append_assoc]
    rfl

/-- From the round with some number on the wait goes one of the ways that it may go. The rounds
that are left are enough. -/
theorem poll_goes (paced : outside.Paced now)
    (shown : outside.Shows now past hash lookups) {rounds : Nat} (opened : w.Open lookups k)
    (enough : (w.timeout : Nat) < (k + rounds) * w.interval) :
    let run := (w.poll hash (now past) rounds).playFrom outside
      (past ++ w.history hash lookups (now past) k)
    w.Course hash lookups (now past) (w.history hash lookups (now past) k ++ run.2) run.1 := by
  induction rounds generalizing k with
  | zero =>
    -- No lookup can have started so late.
    cases k with
    | zero => simp at enough
    | succ k =>
      have early := (opened k (Nat.lt_succ_self k)).2
      exact absurd early (Nat.not_lt.mpr (Nat.le_trans (Nat.le_of_lt enough) (le_startOf ..)))
  | succ rounds ih =>
    rw [playFrom_poll paced shown]
    by_cases late : w.timeout ≤ w.startOf lookups k
    · rw [if_pos late]
      exact .expired k opened late
    rw [if_neg late]
    cases verdict : verdict? hash (lookups k).answer with
    | some result =>
      have ended : w.Course hash lookups (now past) _ result :=
        .decided k opened (Nat.not_le.mp late) verdict
      rw [history, List.append_assoc] at ended
      exact ended
    | none =>
      have absent := verdict?_eq_none.mp verdict
      have later := ih (opened.succ absent (Nat.not_le.mp late)) (by rwa [Nat.add_right_comm])
      dsimp only at later ⊢
      generalize (w.poll hash (now past) rounds).playFrom outside _ = run at later ⊢
      simpa only [history, List.append_assoc, List.singleton_append] using later

/-- From its first look at the clock on, a wait goes one of the ways that it may go. -/
theorem wait_goes (positive : 0 < w.interval) (paced : outside.Paced now)
    (shown : outside.Shows now past hash lookups) :
    let run := (w.wait hash).playFrom outside past
    w.Course hash lookups (now past) run.2 run.1 := by
  have enough : (w.timeout : Nat) < (0 + w.rounds) * w.interval := by
    rw [rounds, Nat.max_eq_left positive, Nat.zero_add, Nat.mul_comm]
    exact Nat.lt_mul_div_succ _ positive
  have goes := poll_goes paced shown (fun j before => absurd before (Nat.not_lt_zero j)) enough
  simp only [wait, of, bind_eq, bind_request, bind_done, playFrom, (paced.clock past).1]
  exact goes

/-- What a wait comes to, told by the answers to its lookups and by their times alone. -/
structure Outcome (w : Waiter) (hash : TxHash) (lookups : Nat → Lookup) (now : Trace → Nat)
    (past trace : Trace) (result : Except Failure Unit) : Prop where
  /-- Nothing else is asked or told about a transaction. -/
  acts : trace.acts = (List.range (trace.looks hash)).map fun k =>
    .look hash (some (lookups k).answer)
  performed : ∀ k, k < trace.looks hash ↔
    (∀ j < k, (lookups j).answer = .ok none) ∧ w.startOf lookups k < w.timeout
  begins : ∀ k < trace.looks hash, ∃ before after,
    trace = before ++ ⟨.ask (.receipt hash), (lookups k).answer⟩ :: after ∧
      before.looks hash = k ∧ now (past ++ before) = now past + w.startOf lookups k
  decided : ∀ k, (∀ j < k, (lookups j).answer = .ok none) → w.startOf lookups k < w.timeout →
    ∀ verdict, verdict? hash (lookups k).answer = some verdict → result = verdict
  /-- Without such a lookup it ends at the first time for one that is too late. -/
  expired : (∀ k, (∀ j < k, (lookups j).answer = .ok none) → w.startOf lookups k < w.timeout →
      (lookups k).answer = .ok none) →
    ∃ n, w.timeout ≤ w.startOf lookups n ∧ (∀ k < n, w.startOf lookups k < w.timeout) ∧
      now (past ++ trace) = now past + w.startOf lookups n ∧
      result = .error (.receiptTimeout hash.text (w.timeout / 1000))
  /-- Where lookups take no time there are few, and the wait is over soon after the time is. -/
  instant : 0 < w.timeout → (∀ k, (lookups k).span = 0) →
    trace.looks hash ≤ w.timeout ⌈/⌉ w.interval - 1 ∧
      (result = .error (.receiptTimeout hash.text (w.timeout / 1000)) →
        now (past ++ trace) < now past + w.timeout + w.interval)

theorem acts_history (w : Waiter) (hash : TxHash) (lookups : Nat → Lookup) (start : Millis)
    (k : Nat) : (w.history hash lookups start k).acts =
      (List.range k).map fun j => .look hash (some (lookups j).answer) := by
  induction k with
  | zero => rfl
  | succ k ih =>
    rw [history, acts_append, acts_append, ih, List.range_succ, List.map_append, List.append_assoc]
    rfl

/-- Each lookup starts at its time. -/
theorem history_begins (paced : outside.Paced now) (shown : outside.Shows now past hash lookups)
    {n : Nat} (before : k < n) : ∃ front after,
      w.history hash lookups (now past) n =
          front ++ ⟨.ask (.receipt hash), (lookups k).answer⟩ :: after ∧
        front.looks hash = k ∧ now (past ++ front) = now past + w.startOf lookups k := by
  induction n with
  | zero => exact absurd before (Nat.not_lt_zero k)
  | succ n ih =>
    rcases Nat.lt_succ_iff_lt_or_eq.mp before with earlier | rfl
    · obtain ⟨front, after, split, looked, time⟩ := ih earlier
      refine ⟨front, after ++ w.pause lookups (now past) n ++
        [⟨.ask (.receipt hash), (lookups n).answer⟩], ?_, looked, time⟩
      simp only [history, split, List.append_assoc, List.cons_append]
    · refine ⟨w.history hash lookups (now past) k ++ w.pause lookups (now past) k, [], ?_, ?_, ?_⟩
      · rw [history]
      · rw [looks_append, looks_history, looks_pause, Nat.add_zero]
      · rw [← List.append_assoc]
        exact (now_pause paced (now_history paced shown k)).2

/-- Lookups that start in time are fewer than the intervals that fill the time. -/
theorem few_in_time (positive : 0 < w.interval) {n : Nat}
    (inTime : ∀ k < n, w.startOf lookups k < w.timeout) : n ≤ w.timeout ⌈/⌉ w.interval - 1 := by
  cases n with
  | zero => exact Nat.zero_le _
  | succ m =>
    apply Nat.le_sub_one_of_lt
    by_contra few
    have enough := (ceilDiv_le_iff_le_mul positive).mp (Nat.not_lt.mp few)
    rw [Nat.mul_comm] at enough
    have early := inTime m (Nat.lt_succ_self m)
    exact absurd early (Nat.not_lt.mpr (Nat.le_trans enough (le_startOf ..)))

/-- Where lookups take no time, the first one that is too late is so by less than an interval. -/
theorem soon_expired (some : 0 < w.timeout) (quick : ∀ k, (lookups k).span = 0) {n : Nat}
    (inTime : ∀ k < n, w.startOf lookups k < w.timeout) :
    w.startOf lookups n < w.timeout + w.interval := by
  cases n with
  | zero =>
    rw [startOf_zero]
    exact Nat.lt_add_of_pos_left some
  | succ m =>
    rw [startOf_succ, quick m, Nat.add_zero]
    exact Nat.add_lt_add_right (inTime m (Nat.lt_succ_self m)) _

theorem verdict?_ne_expired (hash other : TxHash) (seconds : Nat)
    (answer : Except String (Option Confirmation.Receipt)) :
    verdict? hash answer ≠ some (.error (.receiptTimeout other.text seconds)) := by
  rcases answer with reason | _ | _ | _ <;> simp [verdict?]

/-- The first lookup that finds something is the last one that there can be. -/
theorem le_of_absent {result : Except Failure Unit} {i : Nat}
    (verdict : verdict? hash (lookups k).answer = some result)
    (absent : ∀ j < i, (lookups j).answer = .ok none) : i ≤ k := by
  by_contra far
  rw [absent k (Nat.not_le.mp far)] at verdict
  cases verdict

/-- A wait that ends with a lookup comes to what that lookup says. -/
theorem outcome_decided {result : Except Failure Unit} (positive : 0 < w.interval)
    (paced : outside.Paced now) (shown : outside.Shows now past hash lookups)
    (before : w.Open lookups k) (inTime : w.startOf lookups k < w.timeout)
    (verdict : verdict? hash (lookups k).answer = some result) :
    w.Outcome hash lookups now past (w.history hash lookups (now past) (k + 1)) result where
  acts := by rw [looks_history, acts_history]
  performed i := by
    rw [looks_history, Nat.lt_succ_iff]
    constructor
    · intro le
      exact ⟨fun j lt => (before j (Nat.lt_of_lt_of_le lt le)).1,
        Nat.lt_of_le_of_lt ((startOf_strictMono positive).monotone le) inTime⟩
    · rintro ⟨absent, -⟩
      exact le_of_absent verdict absent
  begins i lt := by
    rw [looks_history] at lt
    exact history_begins paced shown lt
  decided i absent _ other said := by
    rcases Nat.lt_or_eq_of_le (le_of_absent verdict absent) with lt | rfl
    · rw [(before i lt).1] at said
      cases said
    · rw [verdict] at said
      exact Option.some.inj said
  expired none := by
    rw [none k (fun j lt => (before j lt).1) inTime] at verdict
    cases verdict
  instant _ _ := by
    have early (i : Nat) (lt : i < k + 1) : w.startOf lookups i < w.timeout :=
      Nat.lt_of_le_of_lt ((startOf_strictMono positive).monotone (Nat.lt_succ_iff.mp lt)) inTime
    rw [looks_history]
    refine ⟨few_in_time positive early, ?_⟩
    rintro rfl
    exact absurd verdict (verdict?_ne_expired _ _ _ _)

/-- A wait of which the time is over has looked in vain each time. -/
theorem outcome_expired (positive : 0 < w.interval) (paced : outside.Paced now)
    (shown : outside.Shows now past hash lookups) (before : w.Open lookups k)
    (late : w.timeout ≤ w.startOf lookups k) :
    w.Outcome hash lookups now past (w.history hash lookups (now past) k ++
      w.pause lookups (now past) k) (.error (w.expired hash)) := by
  have time : now (past ++ (w.history hash lookups (now past) k ++
      w.pause lookups (now past) k)) = now past + w.startOf lookups k := by
    rw [← List.append_assoc]
    exact (now_pause paced (now_history paced shown k)).2
  have looked : Trace.looks hash (w.history hash lookups (now past) k ++
      w.pause lookups (now past) k) = k := by
    rw [looks_append, looks_history, looks_pause, Nat.add_zero]
  have found {i : Nat} (inTime : w.startOf lookups i < w.timeout) : i < k :=
    (startOf_strictMono positive).lt_iff_lt.mp (Nat.lt_of_lt_of_le inTime late)
  constructor
  case acts =>
    rw [looked, acts_append, acts_history]
    exact List.append_nil _
  case performed =>
    intro i
    rw [looked]
    constructor
    · intro lt
      exact ⟨fun j lt' => (before j (Nat.lt_trans lt' lt)).1, (before i lt).2⟩
    · rintro ⟨-, inTime⟩
      exact found inTime
  case begins =>
    intro i lt
    rw [looked] at lt
    obtain ⟨front, after, split, looks, starts⟩ := history_begins paced shown lt
    refine ⟨front, after ++ w.pause lookups (now past) k, ?_, looks, starts⟩
    rw [split, List.append_assoc, List.cons_append]
  case decided =>
    intro i _ inTime verdict said
    rw [(before i (found inTime)).1] at said
    cases said
  case expired =>
    intro _
    exact ⟨k, late, fun i lt => (before i lt).2, time, rfl⟩
  case instant =>
    intro some quick
    rw [looked, time]
    refine ⟨few_in_time positive fun i lt => (before i lt).2, fun _ => ?_⟩
    rw [Nat.add_assoc]
    exact Nat.add_lt_add_left (soon_expired some quick fun i lt => (before i lt).2) _

/-- Each way that a wait may go comes to what its lookups say. -/
theorem Course.outcome {trace : Trace} {result : Except Failure Unit} (positive : 0 < w.interval)
    (paced : outside.Paced now) (shown : outside.Shows now past hash lookups)
    (course : w.Course hash lookups (now past) trace result) :
    w.Outcome hash lookups now past trace result := by
  cases course with
  | decided k before inTime verdict =>
    exact outcome_decided positive paced shown before inTime verdict
  | expired k before late => exact outcome_expired positive paced shown before late

end

end Waiter

/-- Whatever the lookups answer and however long they take, which of them are made, when they start,
and how and when the wait ends is as their answers and times say. -/
theorem wait_as_lookups_say (w : Waiter) (hash : TxHash) (lookups : Nat → Lookup)
    (positive : 0 < w.interval) (outside : Outside) (now : Trace → Nat) (past : Trace)
    (paced : outside.Paced now) (shown : outside.Shows now past hash lookups) :
    let run := (w.wait hash).playFrom outside past
    w.Outcome hash lookups now past run.2 run.1 :=
  (Waiter.wait_goes positive paced shown).outcome positive paced shown

def Trace.slept (trace : Trace) : Nat :=
  (trace.map fun event =>
    match event.request with
    | .sleep span => span
    | _ => 0).sum

def Trace.spent (hash : TxHash) (lookups : Nat → Lookup) (trace : Trace) : Nat :=
  trace.slept + ∑ k ∈ Finset.range (trace.looks hash), (lookups k).span

def Outside.scripted (hash : TxHash) (lookups : Nat → Lookup) : Outside := fun past q =>
  match q with
  | .ask (.receipt other) =>
    if other = hash then (lookups (past.looks hash)).answer else .error "unknown"
  | .ask _ => .error "unknown"
  | .askUntil _ _ => none
  | .fetch _ => .error "unknown"
  | .clock => past.spent hash lookups
  | .sleep _ | .enter _ | .leave _ => ()

theorem Outside.scripted_paced (hash : TxHash) (lookups : Nat → Lookup) :
    (scripted hash lookups).Paced (Trace.spent hash lookups) where
  clock past := ⟨rfl, by simp [Trace.spent, Trace.slept, Trace.looks, Event.looksUp]⟩
  sleep past span := by
    simp [Trace.spent, Trace.slept, Trace.looks, Event.looksUp, Nat.add_right_comm]

theorem Outside.scripted_shows (hash : TxHash) (lookups : Nat → Lookup) :
    (scripted hash lookups).Shows (Trace.spent hash lookups) [] hash lookups := by
  intro trace
  constructor
  · simp [scripted]
  · have one :
        Trace.looks hash [⟨.ask (.receipt hash), (lookups (trace.looks hash)).answer⟩] = 1 := by
      simp [Trace.looks, Event.looksUp]
    simp [Trace.spent, Trace.slept, one, Finset.sum_range_succ, Nat.add_assoc]

/-- Where lookups take longer than the time between them, the third one is too late. -/
theorem third_lookup_too_late :
    let w : Waiter := ⟨1000, 5000⟩
    let hash : TxHash := ⟨7⟩
    let lookups : Nat → Lookup := fun _ => ⟨1500, .ok none⟩
    let now := Trace.spent hash lookups
    let run := (w.wait hash).play (.scripted hash lookups)
    w.Outcome hash lookups now [] run.2 run.1 ∧ run.2.looks hash = 2 ∧ now run.2 = 6000 ∧
      run.1 = .error (.receiptTimeout hash.text 5) := by
  intro w hash lookups now run
  have outcome := wait_as_lookups_say w hash lookups (by decide) _ now []
    (Outside.scripted_paced hash lookups) (Outside.scripted_shows hash lookups)
  obtain ⟨n, -, -, -, expired⟩ := outcome.expired fun _ _ _ => rfl
  have seconds : w.timeout / 1000 = 5 := by decide +kernel
  rw [seconds] at expired
  exact ⟨outcome, by decide +kernel, by decide +kernel, expired⟩

namespace Waiter.Outcome

variable {w : Waiter} {hash : TxHash} {lookups : Nat → Lookup} {now : Trace → Nat}
  {past trace : Trace} {result : Except Failure Unit}

/-- If the first lookup is in time, the time is over only after a lookup that found nothing. -/
theorem of_patient (outcome : w.Outcome hash lookups now past trace result)
    (patient : w.interval < w.timeout) :
    ((lookups 0).answer = .ok (some .success) → result = .ok ()) ∧
      (result = .error (w.expired hash) → .absent hash ∈ trace.acts) := by
  rw [← w.startOf_zero lookups] at patient
  have decided := outcome.decided 0 (fun j before => absurd before (Nat.not_lt_zero j)) patient
  constructor
  · intro success
    exact decided (.ok ()) (by rw [success, verdict?])
  · intro expired
    have looked : 0 < trace.looks hash :=
      (outcome.performed 0).mpr ⟨fun j before => absurd before (Nat.not_lt_zero j), patient⟩
    have absent : (lookups 0).answer = .ok none := by
      apply verdict?_eq_none.mp
      cases verdict : verdict? hash (lookups 0).answer with
      | none => rfl
      | some other =>
        rw [decided other verdict] at expired
        exact absurd (expired ▸ verdict) (verdict?_ne_expired _ _ _ _)
    rw [outcome.acts, List.mem_map]
    exact ⟨0, List.mem_range.mpr looked, by rw [absent, Act.absent]⟩

/-- If the first lookup would be too late, there is none. -/
theorem of_hasty (outcome : w.Outcome hash lookups now past trace result)
    (hasty : w.timeout ≤ w.interval) :
    result = .error (w.expired hash) ∧ trace.acts = [] := by
  have late (k : Nat) : ¬ w.startOf lookups k < w.timeout := by
    apply Nat.not_lt.mpr
    calc w.timeout
      _ ≤ w.interval := hasty
      _ ≤ (k + 1) * w.interval := Nat.le_mul_of_pos_left _ (Nat.succ_pos k)
      _ ≤ w.startOf lookups k := le_startOf ..
  constructor
  · obtain ⟨-, -, -, -, expired⟩ := outcome.expired fun k _ inTime => absurd inTime (late k)
    exact expired
  · have none : trace.looks hash = 0 := by
      by_contra some
      exact late 0 ((outcome.performed 0).mp (Nat.pos_of_ne_zero some)).2
    rw [outcome.acts, none]
    rfl

end Waiter.Outcome

/-- A configuration that is accepted has positive timings. -/
theorem Config.timings_positive {config : Config} (accepted : config.validate = .ok ()) :
    0 < config.keys.pollInterval ∧ 0 < config.keys.confirmationTimeout ∧
      0 < config.keys.operationTimeout := by
  rw [validate] at accepted
  split at accepted
  · cases accepted
  · rename_i none
    simp [timings] at none
    omega

theorem Config.expired_eq (config : Config) (hash : TxHash) : config.waiter.expired hash =
    .receiptTimeout hash.text config.keys.confirmationTimeout := by
  rw [Waiter.expired, waiter, Nat.mul_div_cancel _ (by decide)]

/-- With timings that are accepted, a receipt that is there for every lookup is noticed if lookups
are made more often than the time is over. Then the time is over only after a lookup that found
nothing, and otherwise always and without any lookup. -/
theorem mined_noticed_if_patient (config : Config) (accepted : config.validate = .ok ())
    (hash : TxHash) (lookups : Nat → Lookup) (outside : Outside) (now : Trace → Nat) (past : Trace)
    (paced : outside.Paced now) (shown : outside.Shows now past hash lookups) :
    let run := (config.waiter.wait hash).playFrom outside past
    let expired : Except Failure Unit :=
      .error (.receiptTimeout hash.text config.keys.confirmationTimeout)
    (config.keys.pollInterval < config.keys.confirmationTimeout →
      ((∀ k, (lookups k).answer = .ok (some .success)) → run.1 = .ok ()) ∧
        (run.1 = expired → .absent hash ∈ run.2.acts)) ∧
      (config.keys.confirmationTimeout ≤ config.keys.pollInterval →
        run.1 = expired ∧ run.2.acts = []) := by
  intro run expired
  have positive : 0 < config.waiter.interval :=
    Nat.mul_pos (Config.timings_positive accepted).1 (by decide)
  have outcome := (Waiter.wait_goes positive paced shown).outcome positive paced shown
  constructor
  · intro patient
    obtain ⟨noticed, absent⟩ := outcome.of_patient (Nat.mul_lt_mul_of_pos_right patient (by decide))
    rw [config.expired_eq] at absent
    exact ⟨fun success => noticed (success 0), absent⟩
  · intro hasty
    have missed := outcome.of_hasty (Nat.mul_le_mul_right _ hasty)
    rwa [config.expired_eq] at missed

theorem standard_config_notices :
    let config := Config.standard
    let hash : TxHash := ⟨7⟩
    let lookups : Nat → Lookup := fun _ => ⟨200, .ok (some .success)⟩
    let run := (config.waiter.wait hash).play (.scripted hash lookups)
    config.validate = .ok () ∧ config.keys.pollInterval < config.keys.confirmationTimeout ∧
      run.1 = .ok () := by
  intro config hash lookups run
  have accepted : config.validate = .ok () := rfl
  have patient : config.keys.pollInterval < config.keys.confirmationTimeout := by decide
  have noticed := mined_noticed_if_patient config accepted hash lookups _ _ []
    (Outside.scripted_paced hash lookups) (Outside.scripted_shows hash lookups)
  exact ⟨accepted, patient, (noticed.1 patient).1 fun _ => rfl⟩

/-- A configuration that is accepted, and with which a receipt that is there from the start is not
noticed: it is never looked up. -/
theorem hasty_config_misses :
    let config : Config :=
      { Config.standard with
        keys := { Config.standard.keys with pollInterval := 10, confirmationTimeout := 5 } }
    let hash : TxHash := ⟨7⟩
    let lookups : Nat → Lookup := fun _ => ⟨0, .ok (some .success)⟩
    let outside := Outside.scripted hash lookups
    let now := Trace.spent hash lookups
    let run := (config.waiter.wait hash).play outside
    config.validate = .ok () ∧ outside.Paced now ∧ outside.Shows now [] hash lookups ∧
      run.1 = .error (.receiptTimeout hash.text 5) ∧ run.2.acts = [] := by
  intro config hash lookups outside now run
  have paced : outside.Paced now := Outside.scripted_paced hash lookups
  have shown : outside.Shows now [] hash lookups := Outside.scripted_shows hash lookups
  have positive : 0 < config.waiter.interval := by decide
  have outcome := (Waiter.wait_goes positive paced shown).outcome positive paced shown
  obtain ⟨expired, none⟩ := outcome.of_hasty (by decide)
  rw [config.expired_eq] at expired
  exact ⟨rfl, paced, shown, expired, none⟩

end ProviderWallet
