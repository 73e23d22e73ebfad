import ProviderWallet.Proofs.Turn

namespace ProviderWallet

open Workflow

variable {n : Nat} {α : Type}

/-- What it means for the others and for the node that a party goes on to the next phase. -/
inductive Effect (base : Address → Nat) (account : Address) (i : Fin n) (q : Request)
    (site : Site n) : Phase → Phase → Site n → Prop where
  | quiet {p : Phase} (turn : p.Turn) : Effect base account i q site p p site
  | enters (first : (site.turns account).head? = some i) :
      Effect base account i q site .before .started site
  | told (k : UInt64) (count : k.toNat = base account + (site.acceptedFrom account).length) :
      Effect base account i q site .started (.told k) site
  | accepts (deadline : Millis) (signer : SecretKey) (tx : Transaction)
      (sends : q = .askUntil deadline (.send signer tx)) (sender : tx.sender = account) :
      Effect base account i q site (.told tx.nonce) .spent (site.accept i tx)
  | rejects (k : UInt64) : Effect base account i q site (.told k) .spent (site.reject i)
  | leaves {p : Phase} (turn : p.Turn) :
    Effect base account i q site p .finished (site.pass account)

/-- A reply to a harmless question changes nothing. -/
theorem Replies.site_eq {base : Address → Nat} {i : Fin n} {site site' : Site n}
    {call : Node.Call} {reply : call.Answer} (h : Replies base i site call reply site')
    (harmless : call.isSend = false) : site' = site := by
  cases h with
  | nonce | plain | fails => rfl
  | accepts | loses | rejects => cases harmless

theorem Serves.site_eq {base : Address → Nat} {i : Fin n} {site site' : Site n}
    {deadline : Millis} {call : Node.Call} {reply : Option call.Answer}
    (h : Serves base i site (.askUntil deadline call) reply site')
    (harmless : call.isSend = false) : site' = site := by
  cases h with
  | askUntil _ replies => exact replies.site_eq harmless
  | late => rfl

/-- What a party does in its turn has one of a few effects on the others and on the node. -/
theorem Phase.Goes.effect {base : Address → Nat} {account : Address} {i : Fin n}
    {site site' : Site n} {p p' : Phase} {q : Request} {answer : q.Answer}
    (goes : p.Goes account ⟨q, answer⟩ p') (serves : Serves base i site q answer site') :
    Effect base account i q site p p' site' := by
  cases goes with
  | enter =>
    cases serves with
    | enter first => exact .enters first
  | told deadline k =>
    cases serves with
    | askUntil _ replies =>
      cases replies with
      | nonce count => exact .told k count
      | plain h => cases h
  | untold deadline reply _ =>
    obtain rfl := serves.site_eq rfl
    exact .quiet turn_started
  | hand deadline signer tx reply sender =>
    cases serves with
    | askUntil _ replies =>
      cases replies with
      | plain h => cases h
      | fails h => cases h
      | accepts | loses => exact .accepts deadline signer tx rfl sender
      | rejects => exact .rejects tx.nonce
    | late _ h => cases h
  | plain turn deadline call h =>
    have harmless : call.isSend = false := by cases call <;> first | rfl | cases h
    obtain rfl := serves.site_eq harmless
    exact .quiet turn
  | clock turn time =>
    cases serves with
    | clock => exact .quiet turn
  | leave turn =>
    cases serves with
    | leave => exact .leaves turn

namespace Site

variable {site : Site n}

@[simp] theorem join_accepted (i : Fin n) (q : Request) :
    (site.join i q).accepted = site.accepted := by cases q <;> rfl

@[simp] theorem join_rejected (i : Fin n) (q : Request) :
    (site.join i q).rejected = site.rejected := by cases q <;> rfl

theorem turns_enter (i : Fin n) (account : Address) :
    (site.join i (.enter account)).turns account = site.turns account ++ [i] :=
  Function.update_self ..

theorem turns_enter_of_ne (i : Fin n) {account b : Address} (h : b ≠ account) :
    (site.join i (.enter account)).turns b = site.turns b :=
  Function.update_of_ne h ..

theorem turns_pass (account : Address) :
    (site.pass account).turns account = (site.turns account).tail :=
  Function.update_self ..

theorem turns_pass_of_ne {account b : Address} (h : b ≠ account) :
    (site.pass account).turns b = site.turns b :=
  Function.update_of_ne h ..

theorem acceptedFrom_accept (i : Fin n) (tx : Transaction) :
    (site.accept i tx).acceptedFrom tx.sender = site.acceptedFrom tx.sender ++ [tx] := by
  simp [acceptedFrom, accept]

theorem acceptedFrom_accept_of_ne (i : Fin n) {tx : Transaction} {b : Address}
    (h : b ≠ tx.sender) : (site.accept i tx).acceptedFrom b = site.acceptedFrom b := by
  simp [acceptedFrom, accept, h.symm]

end Site

/-- In the queue of an account are those whose turn it is or who wait for it, and only the first
of them has a turn. -/
structure Lanes (account : Fin n → Address) (phase : Fin n → Phase) (t : Traffic n α) : Prop where
  queued (i : Fin n) (b : Address) :
    i ∈ t.site.turns b ↔ b = account i ∧ ((phase i).Turn ∨ (t.parties i).Queues b)
  distinct (b : Address) : (t.site.turns b).Nodup
  first (i : Fin n) : (phase i).Turn → (t.site.turns (account i)).head? = some i

namespace Lanes

variable {account : Fin n → Address} {phase : Fin n → Phase} {t : Traffic n α}

/-- No two have a turn for one account. -/
theorem alone (h : Lanes account phase t) {i j : Fin n} (hi : (phase i).Turn)
    (hj : (phase j).Turn) (same : account i = account j) : i = j := by
  have first := h.first i hi
  rw [same, h.first j hj] at first
  exact (Option.some.inj first).symm

theorem start (plans : Fin n → Workflow α) :
    Lanes account (fun _ => .before) (Traffic.start plans) where
  queued i b := by simp [Traffic.start, Phase.Turn, Party.Queues]
  distinct b := List.nodup_nil
  first i turn := turn.elim

/-- What leaves the queues and those who have to do with them as they are. -/
theorem congr {phase' : Fin n → Phase} {t' : Traffic n α} (h : Lanes account phase t)
    (turns : t'.site.turns = t.site.turns)
    (same : ∀ i, (phase' i).Turn ∨ (t'.parties i).Queues (account i) ↔
      (phase i).Turn ∨ (t.parties i).Queues (account i))
    (first : ∀ i, (phase' i).Turn →
      (phase i).Turn ∨ (t.site.turns (account i)).head? = some i) :
    Lanes account phase' t' where
  queued i b := by
    rw [turns, h.queued]
    refine and_congr_right fun own => ?_
    rw [own]
    exact (same i).symm
  distinct b := by
    rw [turns]
    exact h.distinct b
  first i turn := by
    rw [turns]
    exact (first i turn).elim (h.first i) id

variable {i : Fin n} {past : Trace} {q : Request} {next : q.Answer → Workflow α}

/-- Whoever asks for a turn is the last of the queue. -/
theorem made (h : Lanes account phase t)
    (found : t.parties i = ⟨past, .ready (.request q next)⟩)
    (enters : ∀ b, q = .enter b → b = account i ∧ ¬ (phase i).Turn) :
    Lanes account phase (t.set i ⟨past, .waiting q next⟩ (t.site.join i q)) := by
  have absent : ¬ (t.parties i).Queues (account i) := by simp [found, Party.Queues]
  by_cases entering : ∃ b, q = .enter b
  · obtain ⟨b, rfl⟩ := entering
    obtain ⟨rfl, early⟩ := enters b rfl
    have new : i ∉ t.site.turns (account i) := by simp [h.queued, early, absent]
    refine ⟨fun j b => ?_, fun b => ?_, fun j turn => ?_⟩
    · rw [Traffic.site_set]
      by_cases lane : b = account i
      · subst lane
        rw [Site.turns_enter, List.mem_append, List.mem_singleton, h.queued]
        by_cases own : j = i
        · subst own
          simp [Party.Queues]
        · simp [own, t.parties_set_of_ne own]
      · rw [Site.turns_enter_of_ne i lane, h.queued]
        by_cases own : j = i
        · subst own
          simp [lane]
        · rw [t.parties_set_of_ne own]
    · rw [Traffic.site_set]
      by_cases lane : b = account i
      · subst lane
        rw [Site.turns_enter]
        exact List.concat_eq_append ▸ (h.distinct _).concat new
      · rw [Site.turns_enter_of_ne i lane]
        exact h.distinct b
    · rw [Traffic.site_set]
      have first := h.first j turn
      by_cases lane : account j = account i
      · rw [lane] at first ⊢
        rw [Site.turns_enter, List.head?_append, first]
        rfl
      · rw [Site.turns_enter_of_ne i lane]
        exact first
  · refine h.congr ?_ (fun j => ?_) fun j turn => .inl turn
    · cases q with
      | enter b => exact absurd ⟨b, rfl⟩ entering
      | _ => rfl
    · by_cases own : j = i
      · subst own
        have absent' : ¬ (⟨past, .waiting q next⟩ : Party α).Queues (account j) := by
          rintro ⟨next', waits⟩
          cases waits
          exact entering ⟨_, rfl⟩
        simp [absent, absent']
      · rw [t.parties_set_of_ne own]

/-- Whoever passes the turn on leaves the queue. -/
theorem passed {answer : q.Answer} (h : Lanes account phase t) (turn : (phase i).Turn) :
    Lanes account (Function.update phase i .finished)
      (t.set i ⟨past, .answered q next answer⟩ (t.site.pass (account i))) := by
  obtain ⟨others, queue⟩ : ∃ others, t.site.turns (account i) = i :: others := by
    have first := h.first i turn
    rwa [List.head?_eq_some_iff] at first
  have distinct := h.distinct (account i)
  rw [queue, List.nodup_cons] at distinct
  have gone : ¬ (⟨past, .answered q next answer⟩ : Party α).Queues (account i) := by
    simp [Party.Queues]
  refine ⟨fun j b => ?_, fun b => ?_, fun j later => ?_⟩
  · rw [Traffic.site_set]
    have before := h.queued j b
    by_cases own : j = i
    · subst own
      rw [Function.update_self, t.parties_set_self]
      by_cases lane : b = account j
      · subst lane
        rw [Site.turns_pass, queue]
        simp [distinct.1, gone, Phase.Turn]
      · rw [Site.turns_pass_of_ne lane]
        simp [before, lane]
    · rw [Function.update_of_ne own, t.parties_set_of_ne own, ← before]
      by_cases lane : b = account i
      · subst lane
        rw [Site.turns_pass, queue]
        simp [own]
      · rw [Site.turns_pass_of_ne lane]
  · rw [Traffic.site_set]
    by_cases lane : b = account i
    · subst lane
      rw [Site.turns_pass, queue]
      exact distinct.2
    · rw [Site.turns_pass_of_ne lane]
      exact h.distinct b
  · have own : j ≠ i := by
      rintro rfl
      rw [Function.update_self] at later
      exact later
    rw [Function.update_of_ne own] at later
    have lane : account j ≠ account i := fun same => own (h.alone later turn same)
    rw [Traffic.site_set, Site.turns_pass_of_ne lane]
    exact h.first j later

theorem delivered {answer : q.Answer} (h : Lanes account phase t)
    (found : t.parties i = ⟨past, .answered q next answer⟩) :
    Lanes account phase (t.set i ⟨past ++ [⟨q, answer⟩], .ready (next answer)⟩ t.site) := by
  refine h.congr rfl (fun j => ?_) fun j turn => .inl turn
  by_cases own : j = i
  · subst own
    simp [found, Party.Queues]
  · rw [t.parties_set_of_ne own]

/-- Whoever goes on with the turn stays the first of the queue. -/
theorem stays {p' : Phase} {answer : q.Answer} {site : Site n} (h : Lanes account phase t)
    (first : (t.site.turns (account i)).head? = some i) (turns : site.turns = t.site.turns)
    (turn : p'.Turn) :
    Lanes account (Function.update phase i p')
      (t.set i ⟨past, .answered q next answer⟩ site) := by
  have mine : (phase i).Turn ∨ (t.parties i).Queues (account i) :=
    ((h.queued i (account i)).mp (List.mem_of_head? first)).2
  refine h.congr turns (fun j => ?_) fun j later => ?_
  · by_cases own : j = i
    · subst own
      simp [turn, mine]
    · rw [Function.update_of_ne own, t.parties_set_of_ne own]
  · by_cases own : j = i
    · subst own
      exact .inr first
    · rw [Function.update_of_ne own] at later
      exact .inl later

/-- Whoever is served keeps to the queue. -/
theorem served {base : Address → Nat} {p' : Phase} {answer : q.Answer} {site : Site n}
    (h : Lanes account phase t)
    (effect : Effect base (account i) i q t.site (phase i) p' site) :
    Lanes account (Function.update phase i p')
      (t.set i ⟨past, .answered q next answer⟩ site) := by
  generalize own : phase i = p at effect
  have first (turn : p.Turn) : (t.site.turns (account i)).head? = some i :=
    h.first i (own ▸ turn)
  cases effect with
  | quiet turn => exact h.stays (first turn) rfl turn
  | enters head => exact h.stays head rfl Phase.turn_started
  | told k _ => exact h.stays (first Phase.turn_started) rfl (Phase.turn_told k)
  | accepts _ _ tx => exact h.stays (first (Phase.turn_told _)) rfl Phase.turn_spent
  | rejects k => exact h.stays (first (Phase.turn_told k)) rfl Phase.turn_spent
  | leaves turn => exact h.passed (own ▸ turn)

end Lanes

/-- What the node has accepted of each account carries the nonces in order, whoever knows a nonce
knows the next one, and nobody has spent more than one. -/
structure Ledger (base : Address → Nat) (account : Fin n → Address) (phase : Fin n → Phase)
    (site : Site n) : Prop where
  known (i : Fin n) (k : UInt64) : phase i = .told k →
    k.toNat = base (account i) + (site.acceptedFrom (account i)).length
  sequence (b : Address) : (site.acceptedFrom b).map (·.nonce.toNat) =
    List.range' (base b) (site.acceptedFrom b).length
  fresh (i : Fin n) : (phase i).Unspent → i ∉ site.accepted.map Prod.fst ∧ i ∉ site.rejected
  once : (site.accepted.map Prod.fst).Nodup
  apart (i : Fin n) : i ∈ site.rejected → i ∉ site.accepted.map Prod.fst

namespace Ledger

variable {base : Address → Nat} {account : Fin n → Address} {phase : Fin n → Phase}
  {site : Site n} {i : Fin n}

theorem start : Ledger base account (fun _ => .before) (⟨fun _ => [], [], []⟩ : Site n) where
  known i k h := by cases h
  sequence b := by simp [Site.acceptedFrom]
  fresh i _ := by simp
  once := by simp
  apart i h := by simp at h

/-- Going on to a phase in which one knows no more than what the node has told. -/
theorem moves {p' : Phase} {site' : Site n} (h : Ledger base account phase site)
    (accepted : site'.accepted = site.accepted) (rejected : site'.rejected = site.rejected)
    (known : ∀ k, p' = .told k →
      k.toNat = base (account i) + (site.acceptedFrom (account i)).length)
    (fresh : p'.Unspent → (phase i).Unspent) :
    Ledger base account (Function.update phase i p') site' := by
  have from_eq (b : Address) : site'.acceptedFrom b = site.acceptedFrom b := by
    rw [Site.acceptedFrom, accepted]
    rfl
  refine ⟨fun j k told => ?_, fun b => ?_, fun j unspent => ?_, ?_, fun j => ?_⟩
  · rw [from_eq]
    by_cases own : j = i
    · subst own
      rw [Function.update_self] at told
      exact known k told
    · rw [Function.update_of_ne own] at told
      exact h.known j k told
  · rw [from_eq]
    exact h.sequence b
  · rw [accepted, rejected]
    by_cases own : j = i
    · subst own
      rw [Function.update_self] at unspent
      exact h.fresh j (fresh unspent)
    · rw [Function.update_of_ne own] at unspent
      exact h.fresh j unspent
  · rw [accepted]
    exact h.once
  · rw [accepted, rejected]
    exact h.apart j

/-- What is accepted from the only one with a turn carries the next nonce. -/
theorem accept {tx : Transaction} (h : Ledger base account phase site)
    (sender : tx.sender = account i) (own : phase i = .told tx.nonce)
    (alone : ∀ j, (phase j).Turn → account j = account i → j = i) :
    Ledger base account (Function.update phase i .spent) (site.accept i tx) := by
  obtain ⟨unused, pending⟩ := h.fresh i (by rw [own]; trivial)
  have names : (site.accept i tx).accepted.map Prod.fst = site.accepted.map Prod.fst ++ [i] := by
    simp [Site.accept]
  refine ⟨fun j k told => ?_, fun b => ?_, fun j unspent => ?_, ?_, fun j rejected => ?_⟩
  · have other : j ≠ i := by
      rintro rfl
      simp at told
    rw [Function.update_of_ne other] at told
    have lane : account j ≠ tx.sender := by
      rw [sender]
      exact fun same => other (alone j (told ▸ Phase.turn_told k) same)
    rw [Site.acceptedFrom_accept_of_ne i lane]
    exact h.known j k told
  · by_cases lane : b = tx.sender
    · subst lane
      have next := h.known i tx.nonce own
      rw [← sender] at next
      rw [Site.acceptedFrom_accept, List.map_append, h.sequence, List.length_append,
        List.length_singleton, List.range'_1_concat, ← next]
      rfl
    · rw [Site.acceptedFrom_accept_of_ne i lane]
      exact h.sequence b
  · have other : j ≠ i := by
      rintro rfl
      simp [Phase.Unspent] at unspent
    rw [Function.update_of_ne other] at unspent
    rw [names]
    simpa [Site.accept, other] using h.fresh j unspent
  · rw [names]
    exact List.concat_eq_append ▸ h.once.concat unused
  · have other : j ≠ i := by
      rintro rfl
      exact pending rejected
    rw [names]
    simpa [other] using h.apart j rejected

/-- A rejected transaction takes no nonce. -/
theorem reject {k : UInt64} (h : Ledger base account phase site) (own : phase i = .told k) :
    Ledger base account (Function.update phase i .spent) (site.reject i) := by
  obtain ⟨unused, -⟩ := h.fresh i (by rw [own]; trivial)
  refine ⟨fun j l told => ?_, h.sequence, fun j unspent => ?_, h.once, fun j rejected => ?_⟩
  · have other : j ≠ i := by
      rintro rfl
      simp at told
    rw [Function.update_of_ne other] at told
    exact h.known j l told
  · have other : j ≠ i := by
      rintro rfl
      simp [Phase.Unspent] at unspent
    rw [Function.update_of_ne other] at unspent
    simpa [Site.reject, other] using h.fresh j unspent
  · rcases List.mem_append.mp rejected with earlier | now
    · exact h.apart j earlier
    · obtain rfl := List.mem_singleton.mp now
      exact unused

/-- Whoever is served keeps the nonces in order. -/
theorem served {p' : Phase} {q : Request} {site' : Site n} (h : Ledger base account phase site)
    (effect : Effect base (account i) i q site (phase i) p' site')
    (alone : ∀ j, (phase i).Turn → (phase j).Turn → account j = account i → j = i) :
    Ledger base account (Function.update phase i p') site' := by
  generalize own : phase i = p at effect
  cases effect with
  | quiet turn =>
    rw [← own, Function.update_eq_self]
    exact h
  | enters head => exact h.moves rfl rfl (by simp) fun _ => by rw [own]; trivial
  | told k count =>
    refine h.moves rfl rfl ?_ fun _ => by rw [own]; trivial
    rintro _ ⟨⟩
    exact count
  | accepts _ _ tx _ sender => exact h.accept sender own fun j => alone j (own ▸ Phase.turn_told _)
  | rejects k => exact h.reject own
  | leaves turn => exact h.moves rfl rfl (by simp) False.elim

end Ledger

structure Orderly (base : Address → Nat) (account : Fin n → Address) (phase : Fin n → Phase)
    (post : Phase → α → Prop) (t : Traffic n α) : Prop where
  obeys (i : Fin n) : (t.parties i).Obeys (account i) post (phase i)
  lanes : Lanes account phase t
  ledger : Ledger base account phase t.site
  handed (i : Fin n) (tx : Transaction) :
    (i, tx) ∈ t.site.accepted → (t.parties i).HandedOver tx

namespace Orderly

variable {base : Address → Nat} {account : Fin n → Address} {phase : Fin n → Phase}
  {post : Phase → α → Prop} {t t' : Traffic n α}

/-- In the beginning all is in order. -/
theorem start {plans : Fin n → Workflow α}
    (h : ∀ i, (plans i).Follows (account i) post .before) :
    Orderly base account (fun _ => .before) post (Traffic.start plans) where
  obeys i := .start (h i)
  lanes := .start plans
  ledger := .start
  handed i tx h := by cases h

variable {i : Fin n} {past : Trace} {q : Request} {next : q.Answer → Workflow α}
  {answer : q.Answer}

/-- It is enough to look at the party who takes a step. -/
theorem of_set {party : Party α} {site : Site n} {phase' : Fin n → Phase}
    (h : Orderly base account phase post t) (others : ∀ j, j ≠ i → phase' j = phase j)
    (obeys : party.Obeys (account i) post (phase' i))
    (lanes : Lanes account phase' (t.set i party site))
    (ledger : Ledger base account phase' site)
    (served : ∀ q ∈ (t.parties i).served, q ∈ party.served)
    (accepted : ∀ j tx, (j, tx) ∈ site.accepted →
      (j, tx) ∈ t.site.accepted ∨ j = i ∧ party.HandedOver tx) :
    Orderly base account phase' post (t.set i party site) := by
  refine ⟨fun j => ?_, lanes, ledger, fun j tx mem => ?_⟩
  · by_cases own : j = i
    · subst own
      rw [t.parties_set_self]
      exact obeys
    · rw [t.parties_set_of_ne own, others j own]
      exact h.obeys j
  · rcases accepted j tx mem with earlier | ⟨rfl, now⟩
    · obtain ⟨deadline, signer, sent⟩ := h.handed j tx earlier
      by_cases own : j = i
      · subst own
        rw [t.parties_set_self]
        exact ⟨deadline, signer, served _ sent⟩
      · rw [t.parties_set_of_ne own]
        exact ⟨deadline, signer, sent⟩
    · rw [t.parties_set_self]
      exact now

theorem made (h : Orderly base account phase post t)
    (found : t.parties i = ⟨past, .ready (.request q next)⟩) :
    Orderly base account phase post (t.set i ⟨past, .waiting q next⟩ (t.site.join i q)) := by
  have obeys := h.obeys i
  rw [found] at obeys
  have enters (b : Address) (entering : q = .enter b) : b = account i ∧ ¬ (phase i).Turn := by
    subst entering
    obtain ⟨p', goes, -⟩ := obeys.follows ()
    exact goes.enters
  refine h.of_set (fun _ _ => rfl) obeys.made (h.lanes.made found enters) ?_ ?_ ?_
  · have ledger : Ledger base account (Function.update phase i (phase i)) (t.site.join i q) :=
      h.ledger.moves (t.site.join_accepted i q) (t.site.join_rejected i q) (h.ledger.known i) id
    rwa [Function.update_eq_self] at ledger
  · simp [found]
  · intro j tx mem
    rw [t.site.join_accepted] at mem
    exact .inl mem

theorem served {site : Site n} (h : Orderly base account phase post t)
    (found : t.parties i = ⟨past, .waiting q next⟩) (serves : Serves base i t.site q answer site) :
    ∃ phase', Orderly base account phase' post
      (t.set i ⟨past, .answered q next answer⟩ site) := by
  have obeys := h.obeys i
  rw [found] at obeys
  obtain ⟨p', goes, follows⟩ := obeys.follows answer
  have effect := goes.effect serves
  refine ⟨Function.update phase i p', h.of_set ?_ ?_ (h.lanes.served effect) ?_ ?_ ?_⟩
  · intro j other
    exact Function.update_of_ne other ..
  · rw [Function.update_self]
    exact obeys.served follows goes
  · exact h.ledger.served effect fun j mine turn same => h.lanes.alone turn mine same
  · rw [found]
    intro q' earlier
    rw [Party.served_waiting] at earlier
    exact List.mem_append_left [q] earlier
  · intro j tx mem
    generalize own : phase i = p at effect
    cases effect with
    | accepts deadline signer tx' sends sender =>
      rcases List.mem_append.mp mem with earlier | now
      · exact .inl earlier
      · obtain ⟨rfl, rfl⟩ := Prod.mk.inj (List.mem_singleton.mp now)
        exact .inr ⟨rfl, deadline, signer, by simp [sends]⟩
    | _ => exact .inl mem

theorem delivered (h : Orderly base account phase post t)
    (found : t.parties i = ⟨past, .answered q next answer⟩) :
    Orderly base account phase post
      (t.set i ⟨past ++ [⟨q, answer⟩], .ready (next answer)⟩ t.site) := by
  have obeys := h.obeys i
  rw [found] at obeys
  refine h.of_set (fun _ _ => rfl) obeys.delivered (h.lanes.delivered found) h.ledger ?_ ?_
  · simp [found]
  · exact fun j tx mem => .inl mem

/-- All stays in order with every step. -/
theorem step (h : Orderly base account phase post t) (step : Traffic.Step base t t') :
    ∃ phase', Orderly base account phase' post t' := by
  cases step with
  | make i found => exact ⟨phase, h.made found⟩
  | serve i found serves => exact h.served found serves
  | deliver i found => exact ⟨phase, h.delivered found⟩

/-- All is in order at any time. -/
theorem of_reachable {plans : Fin n → Workflow α}
    (h : ∀ i, (plans i).Follows (account i) post .before)
    (reachable : Traffic.Reachable base plans t) :
    ∃ phase, Orderly base account phase post t := by
  induction reachable with
  | refl => exact ⟨_, start h⟩
  | tail _ step ih =>
    obtain ⟨phase, orderly⟩ := ih
    exact orderly.step step

/-- Who has a result keeps no turn and waits for none. -/
theorem freed (h : Orderly base account phase Submission.Settled t) (ended : t.Ended i)
    (b : Address) : i ∉ t.site.turns b := by
  obtain ⟨a, result⟩ := ended
  have settled := (h.obeys i).follows
  rw [result] at settled
  intro queued
  obtain ⟨-, turn | ⟨next, waits⟩⟩ := (h.lanes.queued i b).mp queued
  · exact Submission.Settled.not_turn settled turn
  · rw [result] at waits
    cases waits

/-- As long as someone has no result, someone may take a step. -/
theorem goes_on (h : Orderly base account phase Submission.Settled t) (going : ¬ t.Ended i) :
    ∃ t', Traffic.Step base t t' := by
  by_cases waiting : ∃ b, (t.parties i).Queues b
  · -- Then the first of the queue may take a step.
    obtain ⟨b, waits⟩ := waiting
    have queued := (h.lanes.queued i b).mpr ⟨((h.obeys i).queues waits).1, .inr waits⟩
    obtain ⟨j, others, queue⟩ := List.exists_cons_of_ne_nil (List.ne_nil_of_mem queued)
    have first : (t.site.turns b).head? = some j := by rw [queue, List.head?_cons]
    have among := List.mem_of_head? first
    obtain ⟨-, turn | ⟨next, entering⟩⟩ := (h.lanes.queued j b).mp among
    · refine Traffic.exists_step base (i := j) (fun ended => h.freed ended b among) ?_
      intro c next entering
      exact ((h.obeys j).queues ⟨next, entering⟩).2 turn
    · have found : t.parties j = ⟨(t.parties j).past, .waiting (.enter b) next⟩ := by
        rw [← entering]
      exact ⟨_, .serve j found (.enter first)⟩
  · refine Traffic.exists_step base going fun b next entering => ?_
    exact waiting ⟨b, next, entering⟩

end Orderly

/-- Several workflows that send, seen at any time: the transactions that the node has accepted
carry the nonces in order, and no turn is lost. -/
structure Sequenced (base : Address → Nat) (t : Traffic n α) : Prop where
  /-- From the question for the nonce until the turn is passed on, an account has one sender. -/
  one_at_a_time : ∀ i j account, (t.parties i).Busy account → (t.parties j).Busy account → i = j
  /-- The turn lasts at least as long as the transaction is handed over. -/
  busy_while_sending : ∀ i past deadline signer tx next,
    t.parties i = ⟨past, .waiting (.askUntil deadline (.send signer tx)) next⟩ →
    (t.parties i).Busy tx.sender
  in_sequence : ∀ account, (t.site.acceptedFrom account).map (·.nonce.toNat) =
    List.range' (base account) (t.site.acceptedFrom account).length
  /-- Nothing is accepted unless it was handed over. -/
  handed_over : ∀ i tx, (i, tx) ∈ t.site.accepted → (t.parties i).HandedOver tx
  /-- No two transactions of one workflow are accepted. -/
  at_most_once : (t.site.accepted.map Prod.fst).Nodup
  rejected_unaccepted : ∀ i ∈ t.site.rejected, ∀ tx, (i, tx) ∉ t.site.accepted
  /-- Whoever has a result, whatever it is, has passed the turn on. -/
  freed : ∀ i, t.Ended i → ∀ account, i ∉ t.site.turns account
  /-- Nobody waits for a turn that is not passed on. -/
  goes_on : ∀ i, ¬ t.Ended i → ∃ t', Traffic.Step base t t'
  /-- No sequence of steps goes on for ever. -/
  ends : Acc (fun t' t => Traffic.Step base t t') t

/-- Any number of submissions, of any keys, that run at the same time in any order. -/
theorem submissions_in_sequence (base : Address → Nat) (submissions : Fin n → Submission)
    (timeLimit : Millis) {t : Traffic n (Except Failure TxHash)}
    (reachable : Traffic.Reachable base (fun i => (submissions i).submit timeLimit) t) :
    Sequenced base t := by
  obtain ⟨phase, orderly⟩ := Orderly.of_reachable
    (fun i => (submissions i).submit_follows timeLimit) reachable
  refine ⟨?_, ?_, orderly.ledger.sequence, orderly.handed, orderly.ledger.once, ?_, ?_, ?_,
    (Traffic.step_wellFounded base).apply t⟩
  · intro i j account busy busy'
    obtain ⟨own, turn⟩ := (orderly.obeys i).turn_of_busy busy
    obtain ⟨own', turn'⟩ := (orderly.obeys j).turn_of_busy busy'
    exact orderly.lanes.alone turn turn' (own.symm.trans own')
  · intro i past deadline signer tx next sending
    have obeys := orderly.obeys i
    rw [sending] at obeys ⊢
    exact obeys.busy_of_sending
  · intro i rejected tx accepted
    exact orderly.ledger.apart i rejected (List.mem_map_of_mem accepted)
  · exact fun i ended => orderly.freed ended
  · exact fun i going => orderly.goes_on going

/-- Of two submissions that one key signs, one may have its transaction accepted while the other
waits. -/
theorem accepted_while_waiting (submissions : Fin 2 → Submission) {signer : SecretKey}
    (key : ∀ i, (submissions i).key.secret = .ok signer) {timeLimit : Millis}
    (within : timeLimit ≤ Millis.last) (base : Address → Nat) (k : UInt64)
    (first : k.toNat = base signer.address) :
    ∃ t, Traffic.Reachable base (fun i => (submissions i).submit timeLimit) t ∧
      t.site.accepted.map (fun (i, tx) => (i, tx.nonce)) = [(0, k)] ∧
      t.site.turns signer.address = [0, 1] := by
  have plan (i : Fin 2) : (⟨[], .ready ((submissions i).submit timeLimit)⟩ : Party _) =
      ⟨[], .ready (request (.enter signer.address) fun _ => request .clock fun start =>
        ((submissions i).sendBefore signer (Millis.after? start timeLimit)).bind fun result =>
          request (.leave signer.address) fun _ => .done result)⟩ := by
    rw [Submission.submit_signed (key i)]
  have turn : (submissions 0).sendBefore signer (Millis.after? 0 timeLimit) =
      (submissions 0).sendInTurn signer (0 + timeLimit) := by
    rw [Millis.after?_of_le (by rwa [Nat.zero_add])]
    rfl
  have started : Traffic.Reachable base (fun i => (submissions i).submit timeLimit)
      (Traffic.start fun i => (submissions i).submit timeLimit) := .refl
  have entered := started.trans (Traffic.round 0 (plan 0)
    (.enter (by simp [Traffic.start, Site.turns_enter])))
  have timed := entered.trans (Traffic.round 0 rfl (.clock 0))
  rw [turn] at timed
  have told := timed.trans (Traffic.round 0 rfl
    (.askUntil _ (.nonce (k := k) (by simp [first, Site.acceptedFrom, Traffic.start]))))
  have priced := told.trans (Traffic.round 0 rfl (.askUntil _ (.plain rfl (10 : Fee.Price))))
  have tipped := priced.trans (Traffic.round 0 rfl (.askUntil _ (.plain rfl (1 : Fee.Price))))
  have known := tipped.trans (Traffic.round 0 rfl (.askUntil _ (.plain rfl (100 : UInt64))))
  have accepted := known.trans (Traffic.round 0 rfl (.askUntil _ (.accepts _ _ ⟨3⟩)))
  refine ⟨_, accepted.tail (.make 1 (plan 1)), rfl, ?_⟩
  simp [Site.accept, Traffic.start, Site.join]

def spelling : Fin 2 → KeyText
  | 0 => ⟨"0000000000000000000000000000000000000000000000000000000000000001"⟩
  | 1 => ⟨" 0x0000000000000000000000000000000000000000000000000000000000000001"⟩

theorem spelling_secret (i : Fin 2) : (spelling i).secret = .ok ⟨1, by decide, by decide⟩ := by
  have scalar : (spelling i).secret.map SecretKey.scalar = .ok 1 := by
    revert i
    decide +kernel
  cases h : (spelling i).secret with
  | error f =>
    rw [h] at scalar
    cases scalar
  | ok key =>
    rw [h] at scalar
    obtain ⟨n, _, _⟩ := key
    cases scalar
    rfl

/-- Two spellings of one key have one queue. -/
theorem spellings_in_sequence : ∃ t : Traffic 2 (Except Failure TxHash),
    Traffic.Reachable (fun _ => 7)
      (fun i => (Submission.payment (spelling i) ⟨5⟩ 1).submit 1000) t ∧
    t.site.accepted.map (fun (i, tx) => (i, tx.nonce)) = [(0, 7)] ∧
    Sequenced (fun _ => 7) t := by
  have within : 1000 ≤ Millis.last := by decide
  obtain ⟨t, reachable, accepted, -⟩ := accepted_while_waiting
    (fun i => .payment (spelling i) ⟨5⟩ 1) spelling_secret within (fun _ => 7) 7 rfl
  exact ⟨t, reachable, accepted, submissions_in_sequence (fun _ => 7)
    (fun i => .payment (spelling i) ⟨5⟩ 1) 1000 reachable⟩

end ProviderWallet
