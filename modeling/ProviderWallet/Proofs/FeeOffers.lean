import Mathlib.Algebra.Group.Nat.Defs
import ProviderWallet.Proofs.SignerIdentity
import ProviderWallet.Proofs.SubmissionCourse

namespace ProviderWallet

open Workflow

namespace Fee

variable {price : Price}

/-- The cap is half more than the price, unless three times the price has more than 128 bits. -/
theorem toNat_cap (price : Price) :
    (cap price).toNat = min (3 * price.toNat) (2 ^ 128 - 1) / 2 := by
  rw [cap, BitVec.toNat_ofNat]
  have limit : maxPrice = 2 ^ 128 - 1 := rfl
  rw [limit]
  apply Nat.mod_eq_of_lt
  omega

/-- A higher price does not lower the cap. -/
theorem cap_mono {lower : Price} (le : lower ≤ price) : cap lower ≤ cap price := by
  rw [BitVec.le_def] at le ⊢
  rw [toNat_cap, toNat_cap]
  apply Nat.div_le_div_right
  omega

/-- A price in the upper half of the numbers is above its cap. -/
theorem le_cap_iff : price ≤ cap price ↔ price.toNat < 2 ^ 127 := by
  rw [BitVec.le_def, toNat_cap]
  omega

/-- The tip is cut to the cap. -/
theorem toNat_tipCap (feeCap tip : Price) :
    (tipCap feeCap tip).toNat = min tip.toNat feeCap.toNat := by
  rw [tipCap]
  split
  · rename_i within
    exact (Nat.min_eq_left (BitVec.le_def.mp within)).symm
  · rename_i above
    rw [BitVec.le_def, Nat.not_le] at above
    exact (Nat.min_eq_right (Nat.le_of_lt above)).symm

structure Offered (price tip feeCap tipCap : Price) : Prop where
  cap : feeCap = Fee.cap price
  half_more : 3 * price.toNat < 2 ^ 128 → feeCap.toNat = 3 * price.toNat / 2
  -- A tripled price that is too large counts as the largest number.
  at_most : 2 ^ 128 ≤ 3 * price.toNat → feeCap.toNat = 2 ^ 127 - 1
  covers : price ≤ feeCap ↔ price.toNat < 2 ^ 127
  ordered : ∀ lower, lower ≤ price → Fee.cap lower ≤ feeCap
  tip : tipCap.toNat = min tip.toNat feeCap.toNat
  within : tipCap ≤ feeCap

theorem offered (price tip : Price) : Offered price tip (cap price) (tipCap (cap price) tip) where
  cap := rfl
  half_more fits := by
    rw [toNat_cap]
    omega
  at_most large := by
    rw [toNat_cap]
    omega
  covers := le_cap_iff
  ordered _ := cap_mono
  tip := toNat_tipCap _ _
  within := by
    rw [BitVec.le_def, toNat_tipCap]
    exact Nat.min_le_right _ _

end Fee

def Event.price? : Event → Option Fee.Price
  | ⟨.ask .gasPrice, .ok price⟩ => some price
  | ⟨.askUntil _ .gasPrice, some (.ok price)⟩ => some price
  | _ => none

def Event.tip? : Event → Option Fee.Price
  | ⟨.ask .gasTip, .ok tip⟩ => some tip
  | ⟨.askUntil _ .gasTip, some (.ok tip)⟩ => some tip
  | _ => none

def Trace.prices (trace : Trace) : List Fee.Price :=
  trace.filterMap Event.price?

def Trace.tips (trace : Trace) : List Fee.Price :=
  trace.filterMap Event.tip?

/-- One price and one tip were suggested, and this is offered on them. -/
def Trace.Offers (trace : Trace) (feeCap tipCap : Fee.Price) : Prop :=
  ∃ price tip, trace.prices = [price] ∧ trace.tips = [tip] ∧
    Fee.Offered price tip feeCap tipCap

theorem Trace.Offers.append {trace rest : Trace} {feeCap tipCap : Fee.Price}
    (h : trace.Offers feeCap tipCap) (noPrice : rest.prices = []) (noTip : rest.tips = []) :
    (trace ++ rest).Offers feeCap tipCap := by
  obtain ⟨price, tip, suggested, suggested', offered⟩ := h
  refine ⟨price, tip, ?_, ?_, offered⟩
  · rw [prices, List.filterMap_append]
    exact (congrArg₂ (· ++ ·) suggested noPrice)
  · rw [tips, List.filterMap_append]
    exact (congrArg₂ (· ++ ·) suggested' noTip)

namespace Submission

inductive Answered (call : Node.Call) (reply : call.Reply) : Trace → Prop where
  | freely : Answered call reply [⟨.ask call, .ok reply⟩]
  | inTime (deadline : Millis) : Answered call reply [⟨.askUntil deadline call, some (.ok reply)⟩]

theorem parameter_yields (deadline : Option Millis) (call : Node.Call)
    (told : String → Failure) :
    (parameter deadline call told).run.Yields fun trace result =>
      ∀ reply, result = .ok reply → Answered call reply trace := by
  cases deadline with
  | none =>
    simp only [parameter, askBy, ExceptT.run_mk, bind_eq, bind_request, bind_done, pure_eq]
    refine yields_request fun answer => ?_
    rcases answer with reason | reply
    · refine yields_done ?_
      rintro _ ⟨⟩
    · refine yields_done ?_
      rintro _ ⟨⟩
      exact .freely
  | some time =>
    simp only [parameter, askBy, of, ExceptT.run_mk, bind_eq, bind_request, bind_done, pure_eq]
    refine yields_request fun answer => ?_
    rcases answer with _ | reason | reply
    · refine yields_done ?_
      rintro _ ⟨⟩
    · refine yields_done ?_
      rintro _ ⟨⟩
    · refine yields_done ?_
      rintro _ ⟨⟩
      exact .inTime time

/-- After a question that is answered the parameters are fetched further; else there are none. -/
theorem yields_parameter {α : Type} {deadline : Option Millis} {call : Node.Call}
    {told : String → Failure} {next : call.Reply → ExceptT Stop Workflow α}
    {post : Trace → Except Stop α → Prop} (stopped : ∀ trace stop, post trace (.error stop))
    (rest : ∀ reply first, Answered call reply first →
      (next reply).run.Yields fun trace result => post (first ++ trace) result) :
    (parameter deadline call told >>= next).run.Yields post := by
  rw [ExceptT.run_bind, bind_eq]
  refine (parameter_yields deadline call told).bind fun first result answered => ?_
  cases result with
  | error stop => exact yields_done (stopped _ stop)
  | ok reply => exact rest reply first (answered reply rfl)

/-- Parameters that are fetched offer what follows from the price and the tip that were suggested.
-/
theorem fetchFor_offers (signer : SecretKey) (value : Option Wei) (deadline : Option Millis) :
    (fetchFor signer value deadline).run.Yields fun trace result =>
      ∀ p, result = .ok p → trace.Offers p.feeCap p.tipCap := by
  have stopped (trace : Trace) (stop : Stop) (p : Transaction.Parameters)
      (none : Except.error stop = .ok p) : trace.Offers p.feeCap p.tipCap := by
    cases none
  rw [fetchFor]
  refine yields_parameter stopped fun nonce first nonceTold => ?_
  refine yields_parameter (fun _ => stopped _) fun price second priceTold => ?_
  refine yields_parameter (fun _ => stopped _) fun tip third tipTold => ?_
  refine yields_parameter (fun _ => stopped _) fun chainId fourth chainTold => ?_
  refine yields_done ?_
  rintro _ ⟨⟩
  refine ⟨price, tip, ?_, ?_, Fee.offered price tip⟩
  · cases nonceTold <;> cases priceTold <;> cases tipTold <;> cases chainTold <;> rfl
  · cases nonceTold <;> cases priceTold <;> cases tipTold <;> cases chainTold <;> rfl

theorem parameters_offer (key : KeyText) (value : Option Wei) (deadline : Option Millis) :
    (parameters key value deadline).run.Yields fun trace result =>
      ∀ p, result = .ok p → trace.Offers p.feeCap p.tipCap := by
  unfold parameters
  split
  · refine yields_done ?_
    rintro _ ⟨⟩
  · exact fetchFor_offers _ value deadline

/-- What is handed over offers what the parameters say. -/
theorem sendInTurn_offers (s : Submission) (signer : SecretKey) (deadline : Millis) :
    (s.sendInTurn signer deadline).Yields fun trace _ =>
      ∀ tx ∈ handed trace.acts, trace.Offers tx.feeCap tx.tipCap := by
  have quiet := fetchFor_does signer s.value deadline
  have offers := fetchFor_offers signer s.value (some deadline)
  simp only [sendInTurn, bind_eq]
  refine (quiet.and offers).bind fun first result known => ?_
  obtain ⟨⟨quiet, -⟩, offers⟩ := known
  cases result with
  | error stop =>
    cases stop <;> exact yields_done fun tx among => by simp [quiet] at among
  | ok p =>
    refine (s.send_yields p deadline).mono ?_
    rintro trace result ⟨reply, rfl, -⟩ tx among
    rw [acts_append, quiet] at among
    obtain rfl := List.mem_singleton.mp among
    exact (offers p rfl).append rfl rfl

/-- All that a submission hands over offers what follows from the price and the tip that it was
told. -/
theorem submit_offers (s : Submission) (timeLimit : Millis) :
    (s.submit timeLimit).Yields fun trace _ =>
      ∀ tx ∈ handed trace.acts, trace.Offers tx.feeCap tx.tipCap := by
  refine submit_yields_of (fun _ _ _ among => nomatch among) (fun _ _ _ _ _ among => nomatch among)
    fun signer start _ _ => ?_
  refine (s.sendInTurn_offers signer (start + timeLimit)).mono fun trace result offers => ?_
  -- The turn and the clock are no questions about fees and hand nothing over.
  intro tx among
  have among : tx ∈ handed (trace.acts ++ Trace.acts [⟨.leave signer.address, ()⟩]) := by
    rw [← acts_append]
    exact among
  have quiet : Trace.acts [⟨.leave signer.address, ()⟩] = [] := rfl
  rw [quiet, List.append_nil] at among
  exact (offers tx among).append rfl rfl

end Submission

/-- Whatever the node answers, a transaction that is built offers what follows from the one price
and the one tip that were suggested, and so does a transaction that is handed over. -/
theorem fees_follow_suggestions (outside : Outside) :
    (∀ key value deadline,
      let run := (Submission.parameters key value deadline).run.play outside
      ∀ p, run.1 = .ok p → run.2.Offers p.feeCap p.tipCap) ∧
    (∀ (s : Submission) timeLimit,
      let run := (s.submit timeLimit).play outside
      ∀ tx ∈ handed run.2.acts, run.2.Offers tx.feeCap tx.tipCap) :=
  ⟨fun key value deadline => Submission.parameters_offer key value deadline outside [],
    fun s timeLimit => s.submit_offers timeLimit outside []⟩

def suggesting (price tip : Fee.Price) : Outside := fun past q =>
  match q with
  | .ask .gasPrice => .ok price
  | .askUntil _ .gasPrice => some (.ok price)
  | .ask .gasTip => .ok tip
  | .askUntil _ .gasTip => some (.ok tip)
  | q => obliging past q

theorem parameters_suggesting (secret : SecretKey) (price tip : Fee.Price) :
    ((Submission.parameters ⟨secret.text⟩ none none).run.play (suggesting price tip)).1 =
      .ok ⟨secret, 0, 1, Fee.cap price, Fee.tipCap (Fee.cap price) tip, none⟩ := by
  rw [Submission.parameters, secret.secret_text]
  rfl

theorem submit_suggesting (secret : SecretKey) (price tip : Fee.Price) :
    ∃ tx, tx ∈ handed (((Submission.payment ⟨secret.text⟩ ⟨5⟩ 1).submit 1000).play
        (suggesting price tip)).2.acts ∧
      tx.feeCap = Fee.cap price ∧ tx.tipCap = Fee.tipCap (Fee.cap price) tip := by
  have known : (Submission.payment ⟨secret.text⟩ ⟨5⟩ 1).key.secret = .ok secret :=
    secret.secret_text
  rw [Submission.submit_play known 0 rfl (by decide)]
  exact ⟨_, List.mem_singleton_self _, rfl, rfl⟩

/-- A tip that is higher than the cap is cut. -/
theorem high_tip_cut :
    let secret : SecretKey := ⟨1, by decide, by decide⟩
    let outside := suggesting 1000000000 2000000000
    let run := (Submission.parameters ⟨secret.text⟩ none none).run.play outside
    let run' := ((Submission.payment ⟨secret.text⟩ ⟨5⟩ 1).submit 1000).play outside
    (∃ p, run.1 = .ok p ∧ run.2.Offers p.feeCap p.tipCap ∧
        p.feeCap = 1500000000 ∧ p.tipCap = 1500000000) ∧
      ∃ tx ∈ handed run'.2.acts, run'.2.Offers tx.feeCap tx.tipCap ∧
        tx.feeCap = 1500000000 ∧ tx.tipCap = 1500000000 := by
  intro secret outside run run'
  obtain ⟨built, submitted⟩ := fees_follow_suggestions outside
  have parameters := parameters_suggesting secret 1000000000 2000000000
  obtain ⟨tx, among, feeCap, tipCap⟩ := submit_suggesting secret 1000000000 2000000000
  refine ⟨⟨_, parameters, built _ none none _ parameters, ?_, ?_⟩,
    tx, among, submitted _ 1000 tx among, feeCap.trans ?_, tipCap.trans ?_⟩ <;> decide

/-- A suggested price of 2 ^ 127 is more than the cap of the transaction that is built. Half more
than the price would be a number of 128 bits. -/
theorem dear_price_not_covered :
    let secret : SecretKey := ⟨1, by decide, by decide⟩
    let price : Fee.Price := .ofNat 128 (2 ^ 127)
    let run := (Submission.parameters ⟨secret.text⟩ none none).run.play (suggesting price 1)
    ∃ p, run.1 = .ok p ∧ run.2.prices = [price] ∧ p.feeCap < price ∧
      3 * price.toNat / 2 < 2 ^ 128 ∧ p.feeCap.toNat ≠ 3 * price.toNat / 2 := by
  intro secret price run
  have large : price.toNat = 2 ^ 127 := BitVec.toNat_ofNat _ _
  have cap : (Fee.cap price).toNat = 2 ^ 127 - 1 := by
    apply (Fee.offered price 1).at_most
    rw [large]
    decide
  have suggested : run.2.prices = [price] := by
    have plan : Submission.parameters ⟨secret.text⟩ none none =
        Submission.fetchFor secret none none := by
      rw [Submission.parameters, secret.secret_text]
    change ((Submission.parameters _ none none).run.play (suggesting price 1)).2.prices = _
    rw [plan]
    rfl
  refine ⟨_, parameters_suggesting secret price 1, suggested, ?_, ?_, ?_⟩
  · rw [BitVec.lt_def, cap, large]
    decide
  · rw [large]
    decide
  · rw [cap, large]
    decide

end ProviderWallet
