import ProviderWallet.Proofs.Trace

namespace ProviderWallet

variable {outside : Outside} {now : Trace → Millis} {past trace rest answered : Trace}
  {deadline : Millis}

namespace Outside

def Answers (outside : Outside) (past trace : Trace) : Prop :=
  ∀ before event after, trace = before ++ event :: after →
    event.answer = outside (past ++ before) event.request

theorem Answers.tail {event : Event} (h : outside.Answers past (event :: rest)) :
    outside.Answers (past ++ [event]) rest := by
  intro before event' after split
  rw [List.append_assoc]
  exact h (event :: before) event' after (congrArg (event :: ·) split)

theorem Answers.front (h : outside.Answers past (trace ++ rest)) : outside.Answers past trace := by
  intro before event after split
  exact h before event (after ++ rest) (by rw [split, List.append_assoc, List.cons_append])

end Outside

/-- What happens in a run is what the outside answers. -/
theorem Workflow.playFrom_answers {α : Type} (outside : Outside) (past : Trace) (w : Workflow α) :
    outside.Answers past (w.playFrom outside past).2 := by
  induction w generalizing past with
  | done a =>
    intro before event after split
    simp [playFrom] at split
  | request q next ih =>
    intro before event after split
    cases before with
    | nil =>
      obtain ⟨rfl, -⟩ := List.cons.inj split
      rw [List.append_nil]
    | cons first before =>
      obtain ⟨rfl, rest⟩ := List.cons.inj split
      have answered := ih _ _ before event after rest
      rwa [List.append_assoc] at answered

namespace Outside

/-- What the time is after all that happened, if the outside keeps to the deadlines of questions. -/
structure Timed (outside : Outside) (now : Trace → Millis) : Prop where
  /-- The clock is right, and it takes no time to look at it. -/
  clock : ∀ past, outside past .clock = now past ∧ now (past ++ [⟨.clock, now past⟩]) = now past
  /-- An answer comes before the deadline or at once. -/
  inTime : ∀ past deadline call reply, outside past (.askUntil deadline call) = some reply →
    now (past ++ [⟨.askUntil deadline call, some reply⟩]) ≤ max deadline (now past)
  /-- A question is given up when its deadline has come. -/
  late : ∀ past deadline call, outside past (.askUntil deadline call) = none →
    deadline ≤ now (past ++ [⟨.askUntil deadline call, none⟩])

/-- As long as questions are answered, their deadline has not passed. -/
theorem Timed.before_deadline (timed : outside.Timed now) (start : now past ≤ deadline)
    (answers : outside.Answers past answered)
    (asked : ∀ event ∈ answered, ∃ call reply, event = ⟨.askUntil deadline call, some reply⟩) :
    now (past ++ answered) ≤ deadline := by
  induction answered generalizing past with
  | nil => rwa [List.append_nil]
  | cons event rest ih =>
    obtain ⟨call, reply, rfl⟩ := asked event List.mem_cons_self
    have replied := answers [] _ rest rfl
    rw [List.append_nil] at replied
    have next := timed.inTime past deadline call reply replied.symm
    rw [Nat.max_eq_left start] at next
    have last := ih next answers.tail fun event later => asked event (List.mem_cons_of_mem _ later)
    rwa [List.append_assoc] at last

end Outside

/-- Every question has a deadline, the same span of time after the first event, and it is answered
until then or given up because it is later. -/
def Trace.Punctual (trace : Trace) (timeLimit : Millis) (now : Trace → Millis) : Prop :=
  ∀ before deadline call reply after,
    trace = before ++ ⟨.askUntil deadline call, reply⟩ :: after →
    deadline = now (trace.take 1) + timeLimit ∧
      (reply ≠ none → now (before ++ [⟨.askUntil deadline call, reply⟩]) ≤ deadline) ∧
      (reply = none → deadline ≤ now (before ++ [⟨.askUntil deadline call, reply⟩]))

section questions

variable {call call' : Node.Call} {reply : Option call.Answer} {reply' : Option call'.Answer}
  {deadline' : Millis} {before after : Trace} {last : Event}

/-- What stands before another entry stands before the last one. -/
theorem prefix_of_split {α : Type} {front before after : List α} {last entry : α}
    (split : front ++ [last] = before ++ entry :: after) : before <+: front := by
  rcases List.prefix_concat_iff.mp (split ▸ List.prefix_append before (entry :: after)) with
    whole | short
  · rw [whole] at split
    simp at split
  · exact short

/-- Of questions with one deadline that are answered up to the last one, each was asked before this
deadline. What comes after them is no question. -/
theorem Outside.Timed.asked_early (timed : outside.Timed now) (start : now past ≤ deadline)
    (answers : outside.Answers past (answered ++ [⟨.askUntil deadline call', reply'⟩] ++ [last]))
    (asked : ∀ event ∈ answered, ∃ call reply, event = ⟨.askUntil deadline call, some reply⟩)
    (other : ∀ call reply, last ≠ ⟨.askUntil deadline' call, reply⟩)
    (split : answered ++ [⟨.askUntil deadline call', reply'⟩] ++ [last] =
      before ++ ⟨.askUntil deadline' call, reply⟩ :: after) :
    deadline' = deadline ∧ now (past ++ before) ≤ deadline := by
  constructor
  · have among : (⟨.askUntil deadline' call, reply⟩ : Event) ∈
        answered ++ [⟨.askUntil deadline call', reply'⟩] ++ [last] := by
      rw [split]
      exact List.mem_append_right before List.mem_cons_self
    rcases List.mem_append.mp among with among | among
    · rcases List.mem_append.mp among with early | late
      · obtain ⟨_, _, same⟩ := asked _ early
        cases same
        rfl
      · cases List.mem_singleton.mp late
        rfl
    · exact absurd (List.mem_singleton.mp among).symm (other _ _)
  · have front : before <+: answered := by
      rcases List.prefix_concat_iff.mp (prefix_of_split split) with whole | short
      · rw [whole, List.append_cancel_left_eq] at split
        exact absurd (List.cons.inj split).1 (other _ _)
      · exact short
    obtain ⟨rest, rfl⟩ := front
    refine timed.before_deadline start ?_ fun event among =>
      asked event (List.mem_append_left _ among)
    rw [List.append_assoc, List.append_assoc] at answers
    exact answers.front

end questions

end ProviderWallet
