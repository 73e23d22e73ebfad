import ProviderWallet.Proofs.Custody
import ProviderWallet.Proofs.RetrySafety
import ProviderWallet.Proofs.SignedDigest

namespace ProviderWallet

open Workflow

def Request.sending? : Request → Option (SecretKey × Transaction)
  | .ask (.send signer tx) | .askUntil _ (.send signer tx) => some (signer, tx)
  | _ => none

def Trace.sent (trace : Trace) : List (SecretKey × Transaction) :=
  trace.filterMap fun event => event.request.sending?

@[simp] theorem sent_nil : Trace.sent [] = [] := rfl

@[simp] theorem sent_append (t u : Trace) : Trace.sent (t ++ u) = t.sent ++ u.sent := by
  simp [Trace.sent]

theorem sent_cons (event : Event) (trace : Trace) :
    Trace.sent (event :: trace) = event.request.sending?.toList ++ trace.sent := by
  cases h : event.request.sending? <;> simp [Trace.sent, h]

theorem handed_event (event : Event) :
    event.act?.bind Act.handed? = event.request.sending?.map Prod.snd := by
  obtain ⟨q, answer⟩ := event
  cases q with
  | ask call => cases call <;> rfl
  | askUntil deadline call => cases call <;> rfl
  | _ => rfl

/-- The transactions that are sent are those that the acts tell of. -/
theorem handed_acts (trace : Trace) : handed trace.acts = trace.sent.map Prod.snd := by
  rw [handed, Trace.acts, Trace.sent, List.filterMap_filterMap, List.map_filterMap]
  exact congrArg (fun f => List.filterMap f trace) (funext handed_event)

theorem sent_eq_nil {trace : Trace} (h : handed trace.acts = []) : trace.sent = [] := by
  rw [handed_acts] at h
  exact List.map_eq_nil_iff.mp h

/-- Every transaction is signed with the key of a text and sent from its account. If the text holds
no key the work fails. -/
structure SignedWith (key : KeyText) (trace : Trace) (result : Except Failure TxHash) : Prop where
  sent : ∀ signer tx, (signer, tx) ∈ trace.sent →
    key.secret = .ok signer ∧ tx.sender = signer.address
  unusable : ∀ f, key.secret = .error f → result = .error f

namespace Submission

variable {s : Submission} {signer : SecretKey}

theorem fetchFor_sent (signer : SecretKey) (value : Option Wei) (deadline : Millis) :
    (fetchFor signer value (some deadline)).run.Yields fun trace result =>
      trace.sent = [] ∧ ∀ p, result = .ok p → p.signer = signer := by
  refine Yields.mono (fetchFor_does signer value deadline) ?_
  rintro trace result ⟨nothing, known⟩
  refine ⟨sent_eq_nil (by rw [nothing, handed_nil]), ?_⟩
  intro p fetched
  exact (known p fetched).1

theorem send_sent (s : Submission) (p : Transaction.Parameters) (deadline : Millis) :
    (s.send p deadline).Yields fun trace _ =>
      trace.sent = [(p.signer, p.complete s.recipient s.input)] := by
  simp only [send, of, bind_eq, bind_request, bind_done, pure_eq]
  apply yields_request
  intro reply
  rcases reply with _ | _ | hash
  · exact yields_done rfl
  · exact yields_done rfl
  · exact yields_done rfl

/-- In its turn a submission sends from the account of its key and signs with that key. -/
theorem sendInTurn_sent (s : Submission) (signer : SecretKey) (deadline : Millis) :
    (s.sendInTurn signer deadline).Yields fun trace _ =>
      ∀ other tx, (other, tx) ∈ trace.sent → other = signer ∧ tx.sender = signer.address := by
  simp only [sendInTurn, bind_eq]
  refine (fetchFor_sent signer s.value deadline).bind ?_
  rintro first result ⟨nothing, known⟩
  cases result with
  | error stop =>
    cases stop with
    | failed f => exact yields_done (by simp [nothing])
    | late => exact yields_done (by simp [nothing])
  | ok p =>
    obtain rfl := known p rfl
    refine (s.send_sent p deadline).mono ?_
    intro trace result sent other tx among
    rw [sent_append, nothing, List.nil_append, sent, List.mem_singleton] at among
    obtain ⟨rfl, rfl⟩ := Prod.mk.inj among
    exact ⟨rfl, rfl⟩

/-- So it is with a whole submission. -/
theorem submit_sent (s : Submission) (timeLimit : Millis) :
    (s.submit timeLimit).Yields (SignedWith s.key) := by
  refine submit_yields_of ?_ ?_ fun signer start known _ => ?_
  · intro f unusable
    refine ⟨by simp, fun f' failed => ?_⟩
    rw [unusable] at failed
    rw [Except.error.inj failed]
  · intro signer start known _
    refine ⟨by simp [opening, sent_cons, Request.sending?], fun f failed => ?_⟩
    rw [known] at failed
    cases failed
  · refine (s.sendInTurn_sent signer (start + timeLimit)).mono fun first result sent => ⟨?_, ?_⟩
    · intro other tx among
      have among : (other, tx) ∈ first.sent := by
        simpa [opening, sent_cons, Request.sending?] using among
      obtain ⟨rfl, sender⟩ := sent other tx among
      exact ⟨known, sender⟩
    · intro f failed
      rw [known] at failed
      cases failed

end Submission

theorem SignedWith.go_on {key : KeyText} {first seen rest : Trace} {hash : TxHash}
    {result : Except Failure TxHash} (h : SignedWith key first (.ok hash))
    (nothing : seen.sent = []) (later : SignedWith key rest result) :
    SignedWith key (first ++ (seen ++ rest)) result := by
  refine ⟨?_, later.unusable⟩
  intro signer tx among
  rw [sent_append, sent_append, nothing, List.nil_append, List.mem_append] at among
  rcases among with among | among
  · exact h.sent signer tx among
  · exact later.sent signer tx among

theorem SignedWith.give_up {key : KeyText} {first seen : Trace} {hash : TxHash}
    (h : SignedWith key first (.ok hash)) (nothing : seen.sent = []) (f : Failure) :
    SignedWith key (first ++ (seen ++ [])) (.error f) := by
  refine ⟨?_, ?_⟩
  · intro signer tx among
    rw [List.append_nil, sent_append, nothing, List.append_nil] at among
    exact h.sent signer tx among
  · intro f' failed
    cases h.unusable f' failed

namespace Operator

variable (op : Operator) (key : KeyText)

theorem depositTokens_sent (sender : Address) (amount : Wei) (collateral token : Address) :
    (op.depositTokens key sender amount collateral token).Yields (SignedWith key) := by
  simp only [depositTokens, invoke, bind_eq, pure_eq]
  refine (Submission.submit_sent _ op.timeLimit).bind ?_
  intro first result approved
  cases result with
  | error f =>
    refine yields_done ?_
    rw [List.append_nil]
    exact approved
  | ok hash =>
    refine Yields.bind (op.waiter.wait_does hash) ?_
    intro seen result waiting
    have nothing : seen.sent = [] := sent_eq_nil waiting.handed_eq_nil
    cases result with
    | error f => exact yields_done (approved.give_up nothing f)
    | ok =>
      refine (Submission.submit_sent _ op.timeLimit).mono ?_
      intro rest result later
      exact approved.go_on nothing later

end Operator

/-- The address that work is done for. Whoever changes a provider account gives the key itself. -/
def Job.account : Job → Option Address
  | send sender _ _ | addCollateral sender _ _ | sendTokens sender _ _ _ => some sender
  | withdrawCollateral owner _ _ => some owner
  | changeAccount _ _ _ => none

/-- Every transaction is signed with the key that was found and sent from its account. If none was
found that can be used the work fails. -/
structure SignedWithFound (found : Except Failure (Option KeyText)) (trace : Trace)
    (result : Except Failure TxHash) : Prop where
  sent : ∀ signer tx, (signer, tx) ∈ trace.sent →
    ∃ key, found = .ok (some key) ∧ key.secret = .ok signer ∧ tx.sender = signer.address
  idle : (∀ key signer, found = .ok (some key) → key.secret ≠ .ok signer) →
    ∃ f, result = .error f

/-- Work that needs a key is signed with the one that was found. -/
theorem Operator.withKey_sent {op : Operator} {account : Address} {task : String}
    {f : KeyText → Workflow (Except Failure TxHash)}
    (h : ∀ key, (f key).Yields (SignedWith key)) :
    (op.withKey account task f).Yields (SignedWithFound (op.keyOf account)) := by
  unfold withKey keyFor
  match op.keyOf account with
  | .error e => exact yields_done ⟨by simp, fun _ => ⟨_, rfl⟩⟩
  | .ok none => exact yields_done ⟨by simp, fun _ => ⟨_, rfl⟩⟩
  | .ok (some key) =>
    refine (h key).mono ?_
    rintro trace result ⟨sent, unusable⟩
    refine ⟨?_, ?_⟩
    · intro signer tx among
      obtain ⟨known, sender⟩ := sent signer tx among
      exact ⟨key, rfl, known, sender⟩
    · intro none
      cases known : key.secret with
      | error f => exact ⟨f, unusable f known⟩
      | ok signer => exact absurd known (none key signer rfl)

theorem Job.run_sent (op : Operator) (job : Job) {account : Address}
    (named : job.account = some account) :
    (job.run op).Yields (SignedWithFound (op.keyOf account)) := by
  cases job with
  | send sender recipient amount =>
    obtain rfl : sender = account := Option.some.inj named
    exact Operator.withKey_sent fun key => Submission.submit_sent _ _
  | addCollateral sender amount target =>
    obtain rfl : sender = account := Option.some.inj named
    refine Operator.withKey_sent fun key => ?_
    cases target with
    | token collateral token => exact op.depositTokens_sent key sender amount collateral token
    | native collateral account => exact Submission.submit_sent _ _
  | withdrawCollateral owner amount target =>
    obtain rfl : owner = account := Option.some.inj named
    refine Operator.withKey_sent fun key => ?_
    cases target with
    | token collateral token => exact Submission.submit_sent _ _
    | native collateral account => exact Submission.submit_sent _ _
  | sendTokens sender recipient amount token =>
    obtain rfl : sender = account := Option.some.inj named
    exact Operator.withKey_sent fun key => Submission.submit_sent _ _
  | changeAccount key contract mutation => cases named

variable {σ : Type}

/-- For an address a wallet acts with a secret, and so for the account of that secret. -/
structure ActsWith (store : Keystore σ) (w : Wallet σ) (account : Address) (secret : SecretKey) :
    Prop where
  signs (message : Bytes) : (w.sign store account message).1 =
    (secret.signMessage message).map Text.Hex.encodeMarked
  verifies (message : Bytes) (s : Signature)
    (signed : secret.signDigest (Hash.Keccak.hash message) = .ok s)
    (recovers : s.signer? (Hash.Keccak.hash message) = some secret.address) :
    Signature.verify account s.bytes message = true ↔ secret.address = account
  sends (waiter : Waiter) (timeLimit : Millis) (job : Job) (outside : Outside)
    (named : job.account = some account) (signer : SecretKey) (tx : Transaction)
    (among : (signer, tx) ∈
      ((job.run (Operator.ofWallet store w waiter timeLimit)).play outside).2.sent) :
    signer = secret ∧ tx.sender = secret.address

/-- For an address a wallet neither signs nor sends anything. -/
structure Idle (store : Keystore σ) (w : Wallet σ) (account : Address) : Prop where
  signs (message : Bytes) : ∃ f, (w.sign store account message).1 = .error f
  sends (waiter : Waiter) (timeLimit : Millis) (job : Job) (outside : Outside)
    (named : job.account = some account) :
    let run := (job.run (Operator.ofWallet store w waiter timeLimit)).play outside
    run.2.sent = [] ∧ ∃ f, run.1 = .error f

@[simp] theorem Operator.keyOf_ofWallet (store : Keystore σ) (w : Wallet σ) (waiter : Waiter)
    (timeLimit : Millis) (account : Address) :
    (Operator.ofWallet store w waiter timeLimit).keyOf account = (w.find store account).1 := rfl

/-- What is cached or stored for an address is a key of it. -/
structure Wallet.Genuine (store : Keystore σ) (w : Wallet σ) (account : Address) : Prop where
  cached (key : KeyText) (known : w.cache.find? account = some key) : key.address = .ok account
  stored (key : KeyText) (known : store.get w.records account.recordName = .ok (some key)) :
    key.address = .ok account

namespace Wallet

variable {store : Keystore σ} {w : Wallet σ} {account : Address}

theorem Genuine.found (genuine : w.Genuine store account) {key : KeyText}
    (found : (w.find store account).1 = .ok (some key)) : key.address = .ok account := by
  unfold find at found
  cases known : w.cache.find? account with
  | some old =>
    rw [known] at found
    cases found
    exact genuine.cached key known
  | none =>
    cases stored : store.get w.records account.recordName with
    | error f =>
      simp only [known, stored] at found
      cases found
    | ok result =>
      cases result with
      | none =>
        simp only [known, stored] at found
        cases found
      | some key' =>
        simp only [known, stored] at found
        cases found
        exact genuine.stored key stored

/-- A wallet acts with a key that it finds. -/
theorem acts_with {key : KeyText} {secret : SecretKey}
    (found : (w.find store account).1 = .ok (some key)) (holds : key.secret = .ok secret) :
    ActsWith store w account secret := by
  refine ⟨sign_found found holds, ?_, ?_⟩
  · intro message s signed recovers
    rw [secret.verify_signed signed, recovers, Option.some_inj]
  · intro waiter timeLimit job outside named signer tx among
    obtain ⟨sent, -⟩ :=
      job.run_sent (Operator.ofWallet store w waiter timeLimit) named outside []
    obtain ⟨key', found', holds', sender⟩ := sent signer tx among
    rw [Operator.keyOf_ofWallet, found] at found'
    cases found'
    rw [holds] at holds'
    cases holds'
    exact ⟨rfl, sender⟩

/-- Without a key that can be used it does nothing. -/
theorem idle (unusable : ∀ key secret, (w.find store account).1 = .ok (some key) →
    key.secret ≠ .ok secret) : Idle store w account := by
  refine ⟨?_, ?_⟩
  · intro message
    match found : (w.find store account).1 with
    | .error f => exact ⟨f, sign_failed (require_failed found "sign") message⟩
    | .ok none => exact ⟨_, sign_failed (require_missing found "sign") message⟩
    | .ok (some key) =>
      cases known : key.secret with
      | ok secret => exact absurd known (unusable key secret found)
      | error f =>
        refine ⟨f, ?_⟩
        rw [sign_required (require_found found "sign"), known]
        rfl
  · intro waiter timeLimit job outside named
    obtain ⟨sent, idle⟩ :=
      job.run_sent (Operator.ofWallet store w waiter timeLimit) named outside []
    refine ⟨?_, idle unusable⟩
    rw [List.eq_nil_iff_forall_not_mem]
    rintro ⟨signer, tx⟩ among
    obtain ⟨key, found, holds, -⟩ := sent signer tx among
    exact unusable key signer found holds

end Wallet

/-- Records that only wallets have written, and caches of them, are genuine. -/
theorem own_records_genuine (repository : Repository σ) (records : σ)
    (new : repository.IsNew records) (tasks : List (Nat × WalletTask)) (i : Nat)
    (account : Address) :
    (((Wallets.start records).after repository.store tasks).wallet i).Genuine repository.store
      account := by
  obtain ⟨shows, keeps, none_held⟩ := repository.keeps
  obtain ⟨held, sound⟩ := (Wallets.Sound.start (none_held records new)).after keeps tasks
  refine ⟨?_, ?_⟩
  · intro key known
    exact (sound.cached i).find known
  · intro key known
    obtain ⟨other, -, same, address⟩ := sound.own keeps known
    rw [Address.recordName_injective same]
    exact address

namespace Wallet

variable (secret : SecretKey)

def keeping (account : Address) : Wallet Keystore.Records :=
  .ofRecords [(account.recordName, ⟨secret.text⟩)]

theorem find_keeping (account : Address) :
    ((keeping secret account).find Keystore.memory account).1 = .ok (some ⟨secret.text⟩) := by
  simp [keeping, find, ofRecords, Cache.find?, Keystore.memory]

theorem find_keeping_of_ne {account other : Address} (differ : other ≠ account) :
    ((keeping secret account).find Keystore.memory other).1 = .ok none := by
  have unnamed : (other.recordName == account.recordName) = false := by
    rw [beq_eq_false_iff_ne]
    exact fun same => differ (Address.recordName_injective same)
  simp [keeping, find, ofRecords, Cache.find?, Keystore.memory, List.lookup_cons, unnamed]

theorem genuine_keeping :
    (keeping secret secret.address).Genuine Keystore.memory secret.address := by
  refine ⟨fun key known => ?_, fun key known => ?_⟩
  · cases known
  · have stored : key = ⟨secret.text⟩ := by
      simpa [keeping, ofRecords, Keystore.memory, eq_comm] using known
    rw [stored]
    exact secret.address_text

end Wallet

/-- For every address a wallet acts with the key that it finds, be it of that address or not; with
no usable key it does nothing. If what is stored for the address is a key of it then the wallet acts
for the address itself. -/
theorem acts_with_found_key (store : Keystore σ) (w : Wallet σ) (account : Address) :
    (∀ key secret, (w.find store account).1 = .ok (some key) → key.secret = .ok secret →
        ActsWith store w account secret) ∧
      ((∀ key secret, (w.find store account).1 = .ok (some key) → key.secret ≠ .ok secret) →
        Idle store w account) ∧
      (w.Genuine store account → ∀ key, (w.find store account).1 = .ok (some key) →
        ∃ secret, key.secret = .ok secret ∧ secret.address = account ∧
          ActsWith store w account secret) := by
  refine ⟨fun key secret found holds => Wallet.acts_with found holds, Wallet.idle, ?_⟩
  intro genuine key found
  obtain ⟨secret, holds, own⟩ := KeyText.secret_of_address (genuine.found found)
  exact ⟨secret, holds, own, Wallet.acts_with found holds⟩

theorem SecretKey.zero_ne_first :
    (⟨0⟩ : Address) ≠ (⟨1, by decide, by decide⟩ : SecretKey).address := by
  have point : Curve.Secp256k1.generator.scale 1 = Curve.Secp256k1.generator := by decide +kernel
  rw [address_def]
  beta_reduce
  rw [point, Curve.Secp256k1.generator, Address.ofPoint, Hash.Keccak.hash_short (by decide)]
  decide +kernel

/-- With one key stored under its own name, a wallet acts for the address of that key and does
nothing for the address 0. -/
theorem acts_with_stored_key :
    let secret : SecretKey := ⟨1, by decide, by decide⟩
    let w := Wallet.keeping secret secret.address
    w.Genuine Keystore.memory secret.address ∧
      (∃ own : SecretKey, own.address = secret.address ∧
        ActsWith Keystore.memory w secret.address own) ∧
      Idle Keystore.memory w ⟨0⟩ := by
  intro secret w
  have differ : (⟨0⟩ : Address) ≠ secret.address := SecretKey.zero_ne_first
  have found := Wallet.find_keeping secret secret.address
  have missing := Wallet.find_keeping_of_ne secret differ
  have genuine := Wallet.genuine_keeping secret
  obtain ⟨-, -, acts⟩ := acts_with_found_key Keystore.memory w secret.address
  obtain ⟨-, idle, -⟩ := acts_with_found_key Keystore.memory w ⟨0⟩
  obtain ⟨own, -, address, acts⟩ := acts genuine _ found
  refine ⟨genuine, ⟨own, address, acts⟩, idle ?_⟩
  intro key _ known
  rw [missing] at known
  cases known

def Node.Call.obligingly : (call : Node.Call) → call.Answer
  | .pendingNonce _ => .ok (0 : UInt64)
  | .chainId => .ok (1 : UInt64)
  | .gasPrice | .gasTip => .ok (1 : Fee.Price)
  | .receipt _ => .ok (some .success)
  | .send _ _ => .ok (⟨3⟩ : TxHash)
  | .read _ _ => .ok []
  | .balance _ => .ok (0 : Wei)

def obliging : Outside := fun _ q =>
  match q with
  | .ask call => call.obligingly
  | .askUntil _ call => some call.obligingly
  | .fetch _ => .error "no such page"
  | .clock => (0 : Millis)
  | .sleep _ | .enter _ | .leave _ => ()

theorem Submission.submit_obliging {s : Submission} {signer : SecretKey}
    (known : s.key.secret = .ok signer) {timeLimit : Millis} (within : timeLimit ≤ Millis.last) :
    ∃ tx, ((s.submit timeLimit).play obliging).2.sent = [(signer, tx)] := by
  rw [submit_play known 0 rfl (by rwa [Nat.zero_add])]
  exact ⟨_, rfl⟩

theorem Operator.withKey_found {op : Operator} {account : Address} {key : KeyText}
    (found : op.keyOf account = .ok (some key)) (task : String)
    (f : KeyText → Workflow (Except Failure TxHash)) : op.withKey account task f = f key := by
  unfold withKey keyFor
  rw [found]

theorem Operator.send_obliging {op : Operator} {account : Address} {key : KeyText}
    {secret : SecretKey} (found : op.keyOf account = .ok (some key))
    (known : key.secret = .ok secret) (within : op.timeLimit ≤ Millis.last) (recipient : Address)
    (amount : Wei) :
    ∃ tx, (((Job.send account recipient amount).run op).play obliging).2.sent = [(secret, tx)] := by
  rw [Job.run, Operator.send, withKey_found found, pay]
  have known' : (Submission.payment key recipient amount).key.secret = .ok secret := known
  exact Submission.submit_obliging known' within

/-- A wallet pays with the secret that it keeps for an address, whoever's it is. -/
theorem send_keeping (secret : SecretKey) (account recipient : Address) (amount : Wei)
    (waiter : Waiter) {timeLimit : Millis} (within : timeLimit ≤ Millis.last) :
    ∃ tx, (((Job.send account recipient amount).run (Operator.ofWallet Keystore.memory
        (Wallet.keeping secret account) waiter timeLimit)).play obliging).2.sent = [(secret, tx)] ∧
      tx.sender = secret.address := by
  have found := Wallet.find_keeping secret account
  have keyed := found
  rw [← Operator.keyOf_ofWallet _ _ waiter timeLimit] at keyed
  obtain ⟨tx, sent⟩ := Operator.send_obliging keyed secret.secret_text within recipient amount
  have among := List.mem_singleton_self (secret, tx)
  rw [← sent] at among
  have acts := Wallet.acts_with found secret.secret_text
  obtain ⟨-, sender⟩ := acts.sends waiter timeLimit _ obliging rfl secret tx among
  exact ⟨tx, sent, sender⟩

/-- A record that is named for the address 0 and holds the key of another account makes that
account pay. -/
theorem misplaced_key_used :
    let secret : SecretKey := ⟨1, by decide, by decide⟩
    let account : Address := ⟨0⟩
    secret.address ≠ account ∧
      ((Wallet.keeping secret account).find Keystore.memory account).1 = .ok (some ⟨secret.text⟩) ∧
      (⟨secret.text⟩ : KeyText).address = .ok secret.address ∧
      ∃ tx, (((Job.send account ⟨5⟩ 1).run (Operator.ofWallet Keystore.memory
          (Wallet.keeping secret account) .standard 1000)).play obliging).2.sent = [(secret, tx)] ∧
        tx.sender = secret.address := by
  intro secret account
  have differ : secret.address ≠ account := SecretKey.zero_ne_first.symm
  exact ⟨differ, Wallet.find_keeping secret account, secret.address_text,
    send_keeping secret account ⟨5⟩ 1 .standard (by decide)⟩

end ProviderWallet
