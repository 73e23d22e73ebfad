namespace ProviderWallet

variable {α β σ τ : Type}

def inTurn (step : α → σ → β × σ) : List α → σ → List β × σ
  | [], s => ([], s)
  | task :: tasks, s =>
    let (reply, s) := step task s
    let (replies, s) := inTurn step tasks s
    (reply :: replies, s)

/-- Two systems that say the same in related states and stay related say the same for ever. -/
theorem inTurn_related {step : α → σ → β × σ} {step' : α → τ → β × τ} {Related : σ → τ → Prop}
    {tasks : List α}
    (one : ∀ task ∈ tasks, ∀ s t, Related s t →
      (step task s).1 = (step' task t).1 ∧ Related (step task s).2 (step' task t).2)
    {s : σ} {t : τ} (h : Related s t) :
    (inTurn step tasks s).1 = (inTurn step' tasks t).1 ∧
      Related (inTurn step tasks s).2 (inTurn step' tasks t).2 := by
  induction tasks generalizing s t with
  | nil => exact ⟨rfl, h⟩
  | cons task tasks ih =>
    obtain ⟨reply, related⟩ := one task List.mem_cons_self s t h
    obtain ⟨replies, last⟩ :=
      ih (fun other among => one other (List.mem_cons_of_mem _ among)) related
    simp only [inTurn, reply, replies]
    exact ⟨trivial, last⟩

end ProviderWallet
