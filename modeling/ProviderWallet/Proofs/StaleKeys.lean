import Mathlib.Data.List.Induction
import ProviderWallet.Proofs.Custody

namespace ProviderWallet

variable {σ : Type}

namespace Wallet

inductive CachesStored (w : Wallet σ) (key : KeyText)
    (outcome : Except Failure Address × Wallet σ) : Prop where
  | failed (f : Failure) (said : outcome.1 = .error f) (same : outcome.2.cache = w.cache)
  | stored (account : Address) (said : outcome.1 = .ok account)
      (cached : outcome.2.cache = w.cache.insert account key)

/-- A key that is stored is cached. -/
theorem Storing.caches {store : Keystore σ} {w : Wallet σ} {fresh : Fresh} {key : KeyText}
    {outcome : Except Failure Address × Wallet σ} (storing : Storing store w fresh key outcome) :
    w.CachesStored key outcome := by
  cases storing with
  | refused f => exact .failed f rfl rfl
  | failed account f f' records put => exact .failed f' rfl rfl
  | stored account records address put => exact .stored account rfl rfl

end Wallet

/-- What becomes of the key that is cached for an address while a task is done. -/
inductive CacheFate (store : Keystore σ) (task : WalletTask) (account : Address) (w : Wallet σ)
    (outcome : Except Failure WalletReply × Wallet σ) : Prop where
  | kept (undeleted : task ≠ .delete account)
      (same : outcome.2.cache.find? account = w.cache.find? account)
  | forgotten (deletes : task = .delete account) (gone : outcome.2.cache.find? account = none)
  | found (undeleted : task ≠ .delete account) (key : KeyText)
      (cached : outcome.2.cache.find? account = some key)
      (there : store.get outcome.2.records account.recordName = .ok (some key))
  | stored (undeleted : task ≠ .delete account) (key : KeyText) (stores : task.Stores key)
      (cached : outcome.2.cache.find? account = some key) (said : outcome.1 = .ok (.stored account))

namespace CacheFate

variable {store : Keystore σ} {task : WalletTask} {account other : Address} {w : Wallet σ}
  {outcome : Except Failure WalletReply × Wallet σ}

/-- Looking a key up caches it if it has a record. -/
theorem of_find (undeleted : task ≠ .delete account)
    (state : outcome.2 = (w.find store other).2) : CacheFate store task account w outcome := by
  unfold Wallet.find at state
  cases known : w.cache.find? other with
  | some key =>
    rw [known] at state
    exact .kept undeleted (by rw [state])
  | none =>
    cases found : store.get w.records other.recordName with
    | error f =>
      simp only [known, found] at state
      exact .kept undeleted (by rw [state])
    | ok result =>
      cases result with
      | none =>
        simp only [known, found] at state
        exact .kept undeleted (by rw [state])
      | some key =>
        simp only [known, found] at state
        by_cases same : account = other
        · subst same
          refine .found undeleted key ?_ ?_
          · rw [state, Cache.find?_insert_self]
          · rw [state, found]
        · refine .kept undeleted ?_
          rw [state, Cache.find?_insert_of_ne same]

/-- Storing a key caches it if it succeeds. -/
theorem of_insert (undeleted : task ≠ .delete account) {key : KeyText} (stores : task.Stores key)
    (said : outcome.1 = .ok (.stored other))
    (cached : outcome.2.cache = w.cache.insert other key) :
    CacheFate store task account w outcome := by
  by_cases same : account = other
  · subst same
    refine .stored undeleted key stores ?_ said
    rw [cached, Cache.find?_insert_self]
  · refine .kept undeleted ?_
    rw [cached, Cache.find?_insert_of_ne same]

theorem of_caches {key : KeyText} {result : Except Failure Address × Wallet σ}
    (undeleted : task ≠ .delete account) (stores : task.Stores key)
    (caches : w.CachesStored key result) :
    CacheFate store task account w (result.map (·.map .stored) id) := by
  cases caches with
  | failed f said same => exact .kept undeleted (congrArg (Cache.find? · account) same)
  | stored other said cached =>
    exact of_insert undeleted stores (congrArg (Except.map WalletReply.stored) said) cached

variable (store account w)

theorem delete (other : Address) :
    CacheFate store (.delete other) account w (WalletTask.run store (.delete other) w) := by
  by_cases same : account = other
  · subst same
    exact .forgotten rfl (w.cache.find?_erase_self account)
  · refine .kept ?_ (Cache.find?_erase_of_ne same)
    intro deletes
    cases deletes
    exact same rfl

/-- What is cached for an address changes only as it may. -/
theorem run (task : WalletTask) : CacheFate store task account w (task.run store w) := by
  cases task with
  | find other => exact of_find nofun rfl
  | sign other message => exact of_find nofun (w.sign_state store other message)
  | reveal other => exact of_find nofun (w.require_state store "export" other)
  | importKey fresh key =>
    exact of_caches nofun rfl (w.importKey_storing store fresh key).caches
  | generate fresh secret =>
    exact of_caches nofun rfl (w.generate_storing store fresh secret).caches
  | delete other => exact delete store account w other
  | list => exact .kept nofun rfl

end CacheFate

namespace Wallets

variable {store : Keystore σ} {ws : Wallets σ} {tasks : List (Nat × WalletTask)} {i : Nat}
  {account : Address}

def Caches (ws : Wallets σ) (i : Nat) (account : Address) : Prop :=
  ∃ key, (ws.caches i).find? account = some key

/-- Another wallet has deleted the record of an address while a wallet had its key in the cache, and
that one has not been asked to delete it since. -/
def LeftBehind (store : Keystore σ) (ws : Wallets σ) (tasks : List (Nat × WalletTask)) (i : Nat)
    (account : Address) : Prop :=
  ∃ first j rest, tasks = first ++ (j, .delete account) :: rest ∧ j ≠ i ∧
    ((ws.after store first).perform store j (.delete account)).1 = .ok .deleted ∧
    (ws.after store first).Caches i account ∧ (i, .delete account) ∉ rest

theorem caches_perform_other {j : Nat} (differ : i ≠ j) (task : WalletTask) :
    (ws.perform store j task).2.caches i = ws.caches i :=
  Function.update_of_ne differ _ ws.caches

theorem caches_perform_self (task : WalletTask) :
    (ws.perform store i task).2.caches i = (task.run store (ws.wallet i)).2.cache :=
  Function.update_self i _ ws.caches

theorem after_concat (store : Keystore σ) (ws : Wallets σ) (tasks : List (Nat × WalletTask))
    (step : Nat × WalletTask) :
    ws.after store (tasks ++ [step]) = ((ws.after store tasks).perform store step.1 step.2).2 :=
  after_append store ws tasks [step]

/-- A key is forgotten only by the wallet that is asked to delete it. -/
theorem Caches.perform (cached : ws.Caches i account) {j : Nat} {task : WalletTask}
    (undeleted : (j, task) ≠ (i, .delete account)) :
    (ws.perform store j task).2.Caches i account := by
  rw [Caches]
  by_cases same : i = j
  · subst same
    rw [caches_perform_self]
    cases CacheFate.run store account (ws.wallet i) task with
    | kept _ same =>
      rw [same]
      exact cached
    | forgotten deletes =>
      subst deletes
      exact absurd rfl undeleted
    | found _ key now => exact ⟨key, now⟩
    | stored _ key _ now => exact ⟨key, now⟩
  · rw [caches_perform_other same]
    exact cached

theorem Caches.after (cached : ws.Caches i account)
    (undeleted : (i, .delete account) ∉ tasks) : (ws.after store tasks).Caches i account := by
  induction tasks generalizing ws with
  | nil => exact cached
  | cons step tasks ih =>
    rw [List.mem_cons, not_or] at undeleted
    obtain ⟨first, rest⟩ := undeleted
    exact ih (cached.perform (Ne.symm first)) rest

theorem LeftBehind.caches (h : LeftBehind store ws tasks i account) :
    (ws.after store tasks).Caches i account := by
  obtain ⟨first, j, rest, rfl, other, -, cached, undeleted⟩ := h
  rw [after_append]
  apply Caches.after _ undeleted
  apply cached.perform
  intro same
  exact other (congrArg Prod.fst same)

theorem LeftBehind.concat (h : LeftBehind store ws tasks i account) {step : Nat × WalletTask}
    (undeleted : step ≠ (i, .delete account)) :
    LeftBehind store ws (tasks ++ [step]) i account := by
  obtain ⟨first, j, rest, rfl, other, deleted, cached, absent⟩ := h
  refine ⟨first, j, rest ++ [step], by simp, other, deleted, cached, ?_⟩
  rw [List.mem_append, List.mem_singleton]
  rintro (among | same)
  · exact absent among
  · exact undeleted same.symm

end Wallets

namespace Wallets.Sound

variable {store : Keystore σ} {text : σ → (name : String) → Option String}
  {shows : σ → Cache → Prop} {held : Cache} {ws : Wallets σ}

theorem text_of_get (keeps : store.Keeps text shows) (sound : ws.Sound shows held)
    {account : Address} {key : KeyText}
    (there : store.get ws.records account.recordName = .ok (some key)) :
    ∃ written, text ws.records account.recordName = some written := by
  rw [← Option.ne_none_iff_exists', Ne, keeps.text_none sound.shown account]
  intro missing
  rw [keeps.get sound.shown account, missing] at there
  cases there

/-- A key that is cached after a task was cached before, or it has a record now. -/
theorem cached_before (keeps : store.Keeps text shows) (sound : ws.Sound shows held) {i j : Nat}
    {task : WalletTask} {account : Address}
    (cached : (ws.perform store j task).2.Caches i account) :
    (j, task) ≠ (i, .delete account) ∧ (ws.Caches i account ∨
      ∃ written, text (ws.perform store j task).2.records account.recordName = some written) := by
  obtain ⟨held', sound', change⟩ := sound.perform keeps j task
  by_cases mine : i = j
  · subst mine
    obtain ⟨key, cached⟩ := cached
    rw [caches_perform_self] at cached
    cases CacheFate.run store account (ws.wallet i) task with
    | kept undeleted same =>
      rw [same] at cached
      exact ⟨by simpa using undeleted, .inl ⟨key, cached⟩⟩
    | forgotten _ gone =>
      rw [gone] at cached
      cases cached
    | found undeleted _ _ there =>
      exact ⟨by simpa using undeleted, .inr (sound'.text_of_get keeps there)⟩
    | stored undeleted _ _ _ said =>
      refine ⟨by simpa using undeleted, .inr ?_⟩
      have said : (ws.perform store i task).1 = .ok (.stored account) := said
      have fate := change.fate keeps sound.shown sound'.shown account
      rw [said] at fate
      generalize text ws.records account.recordName = was at fate
      generalize text (ws.perform store i task).2.records account.recordName = now at fate ⊢
      cases fate with
      | kept _ unsaid => exact absurd rfl unsaid
      | removed _ _ deleted => cases deleted
      | stored written => exact ⟨written, rfl⟩
  · rw [Caches, caches_perform_other mine] at cached
    refine ⟨?_, .inl cached⟩
    intro same
    exact mine (congrArg Prod.fst same).symm

/-- A record stays unless it is deleted. -/
theorem stays (keeps : store.Keeps text shows) (sound : ws.Sound shows held) (j : Nat)
    (task : WalletTask) {account : Address} {written : String}
    (there : text ws.records account.recordName = some written) :
    text (ws.perform store j task).2.records account.recordName = some written ∨
      task = .delete account ∧ (ws.perform store j task).1 = .ok .deleted := by
  obtain ⟨held', sound', change⟩ := sound.perform keeps j task
  have fate := change.fate keeps sound.shown sound'.shown account
  rw [there] at fate
  generalize text (ws.perform store j task).2.records account.recordName = now at fate ⊢
  cases fate with
  | kept => exact .inl rfl
  | removed _ deletes said => exact .inr ⟨deletes, said⟩

/-- A key that is cached has a record, or it was left behind. -/
theorem stored_or_left (keeps : store.Keeps text shows) {records : σ} (shown : shows records [])
    {tasks : List (Nat × WalletTask)} {i : Nat} {account : Address}
    (cached : ((Wallets.start records).after store tasks).Caches i account) :
    (∃ written, text ((Wallets.start records).after store tasks).records account.recordName =
        some written) ∨
      LeftBehind store (Wallets.start records) tasks i account := by
  induction tasks using List.reverseRecOn with
  | nil =>
    obtain ⟨key, found⟩ := cached
    cases found
  | append_singleton tasks step ih =>
    obtain ⟨j, task⟩ := step
    obtain ⟨held, sound⟩ := (Wallets.Sound.start shown).after keeps tasks
    rw [after_concat] at cached ⊢
    obtain ⟨undeleted, before | now⟩ := sound.cached_before keeps cached
    · rcases ih before with ⟨written, there⟩ | left
      · rcases sound.stays keeps j task there with there | ⟨rfl, deleted⟩
        · exact .inl ⟨written, there⟩
        · have other : j ≠ i := by
            rintro rfl
            exact undeleted rfl
          exact .inr ⟨tasks, j, [], rfl, other, deleted, before, by simp⟩
      · exact .inr (left.concat undeleted)
    · exact .inl now

end Wallets.Sound

/-- A wallet has a key of an address: it shows the key and signs with it, and it refuses to store
any. -/
structure Uses (store : Keystore σ) (ws : Wallets σ) (i : Nat) (account : Address) (key : KeyText)
    (secret : SecretKey) : Prop where
  finds : ((ws.wallet i).find store account).1 = .ok (some key)
  reveals : ((ws.wallet i).reveal store account).1 = .ok key
  signs (message : Bytes) : ((ws.wallet i).sign store account message).1 =
    (secret.signMessage message).map Text.Hex.encodeMarked
  refuses (fresh : Fresh) (other : KeyText) (address : other.address = .ok account) :
    (ws.perform store i (.importKey fresh other)).1 = .error (.alreadyExists account.text)

/-- A wallet has no key of an address, and stores one that it is given. -/
structure Lacks (store : Keystore σ) (ws : Wallets σ) (i : Nat) (account : Address) : Prop where
  finds : ((ws.wallet i).find store account).1 = .ok none
  reveals : ((ws.wallet i).reveal store account).1 = .error (.keyNotFound account.text "export")
  signs (message : Bytes) : ((ws.wallet i).sign store account message).1 =
    .error (.keyNotFound account.text "sign")
  imports (fresh : Fresh) (key : KeyText) (address : key.address = .ok account) :
    (ws.perform store i (.importKey fresh key)).1 = .ok (.stored account)

theorem Uses.of_found {store : Keystore σ} {ws : Wallets σ} {i : Nat} {account : Address}
    {key : KeyText} {secret : SecretKey}
    (finds : ((ws.wallet i).find store account).1 = .ok (some key))
    (taken : (ws.wallet i).isTaken store account = .ok true) (holds : key.secret = .ok secret) :
    Uses store ws i account key secret := by
  refine ⟨finds, Wallet.require_found finds "export", Wallet.sign_found finds holds, ?_⟩
  intro fresh other address
  have refused : ((ws.wallet i).importKey store fresh other).1 =
      .error (.alreadyExists account.text) := by
    unfold Wallet.importKey
    simp only [address, taken]
  exact congrArg (Except.map WalletReply.stored) refused

namespace Wallets.Sound

variable {store : Keystore σ} {text : σ → (name : String) → Option String}
  {shows : σ → Cache → Prop} {held : Cache} {ws : Wallets σ} {i : Nat} {account : Address}

/-- A wallet finds what it has cached, and else what is held. -/
theorem find_eq (keeps : store.Keeps text shows) (sound : ws.Sound shows held) (i : Nat)
    (account : Address) : ((ws.wallet i).find store account).1 =
      .ok (((ws.caches i).find? account).or (held.find? account)) := by
  obtain ⟨shown, valid, -, cached⟩ := sound
  obtain ⟨result, -⟩ := Wallet.find_spec (w := ws.wallet i) keeps shown valid (cached i) account
  exact result

theorem uses (keeps : store.Keeps text shows) (sound : ws.Sound shows held) {key : KeyText}
    (known : ((ws.caches i).find? account).or (held.find? account) = some key) :
    ∃ secret, key.secret = .ok secret ∧ secret.address = account ∧
      Uses store ws i account key secret := by
  have address : key.address = .ok account := by
    rcases Option.or_eq_some_iff.mp known with cached | ⟨-, found⟩
    · exact (sound.cached i).find cached
    · exact sound.valid.find found
  obtain ⟨secret, holds, own⟩ := KeyText.secret_of_address address
  have finds := sound.find_eq keeps i account
  rw [known] at finds
  have taken : (ws.wallet i).isTaken store account = .ok true := by
    rw [Wallet.isTaken_spec (w := ws.wallet i) keeps sound.shown account, wallet, known]
    rfl
  exact ⟨secret, holds, own, .of_found finds taken holds⟩

theorem lacks (keeps : store.Keeps text shows) (sound : ws.Sound shows held)
    (unknown : (ws.caches i).find? account = none) (missing : held.find? account = none) :
    Lacks store ws i account := by
  have finds := sound.find_eq keeps i account
  rw [unknown, missing] at finds
  refine ⟨finds, Wallet.require_missing finds "export",
    Wallet.sign_failed (Wallet.require_missing finds "sign"), ?_⟩
  intro fresh key address
  have stored := Wallet.importKey_free (w := ws.wallet i) keeps sound.shown address unknown missing
    fresh
  exact congrArg (Except.map WalletReply.stored) stored

end Wallets.Sound

section deleted

variable (secret : SecretKey)

def shared : List (Nat × WalletTask) :=
  [(0, .importKey ⟨0, 0, 0⟩ ⟨secret.text⟩), (1, .find secret.address)]

def sharedAndDeleted : List (Nat × WalletTask) :=
  shared secret ++ [(0, .delete secret.address)]

theorem after_shared :
    let ws := (Wallets.start []).after Keystore.memory (shared secret)
    ws.records = [(secret.address.recordName, ⟨secret.text⟩)] ∧
      ws.caches 1 = [(secret.address, ⟨secret.text⟩)] := by
  simp [shared, Wallets.after, Wallets.perform, Wallets.wallet, Wallets.start, WalletTask.run,
    Wallet.importKey, secret.address_text, Wallet.isTaken, Wallet.find, Keystore.memory,
    Cache.find?, Cache.insert, Except.map]

theorem delete_only {ws : Wallets Keystore.Records} {account : Address} {key : KeyText}
    (records : ws.records = [(account.recordName, key)]) (i : Nat) :
    (ws.perform Keystore.memory i (.delete account)).1 = .ok .deleted ∧
      (ws.perform Keystore.memory i (.delete account)).2.records = [] := by
  simp [Wallets.perform, Wallets.wallet, WalletTask.run, Wallet.delete, Keystore.memory, records,
    Except.map, Except.mapError]

theorem left_behind : Wallets.LeftBehind Keystore.memory (Wallets.start [])
    (sharedAndDeleted secret) 1 secret.address := by
  obtain ⟨records, cached⟩ := after_shared secret
  obtain ⟨said, -⟩ := delete_only records 0
  refine ⟨shared secret, 0, [], rfl, by decide, said, ⟨⟨secret.text⟩, ?_⟩, by simp⟩
  rw [cached]
  exact List.lookup_cons_self

/-- The record is gone, and the wallet that did not delete it uses the key. -/
theorem deleted_used :
    let ws := (Wallets.start []).after Keystore.memory (sharedAndDeleted secret)
    ws.records = [] ∧ Uses Keystore.memory ws 1 secret.address ⟨secret.text⟩ secret := by
  intro ws
  obtain ⟨records, cached⟩ := after_shared secret
  have last : ws = (((Wallets.start []).after Keystore.memory (shared secret)).perform
      Keystore.memory 0 (.delete secret.address)).2 := Wallets.after_concat _ _ _ _
  obtain ⟨-, gone⟩ := delete_only records 0
  refine ⟨by rw [last, gone], ?_⟩
  have known : (ws.caches 1).find? secret.address = some ⟨secret.text⟩ := by
    rw [last, Wallets.caches_perform_other (by decide), cached]
    exact List.lookup_cons_self
  refine .of_found ?_ ?_ secret.secret_text
  · simp only [Wallet.find, Wallets.wallet, known]
  · simp only [Wallet.isTaken, Wallets.wallet, known]
    rfl

end deleted

/-- A wallet uses a key of an address exactly if it is stored, or if it was left behind: another
wallet has deleted it while this one had it in its cache, and this one did not delete it since. -/
theorem used_if_stored_or_left (repository : Repository σ) (records : σ)
    (new : repository.IsNew records) (tasks : List (Nat × WalletTask)) (i : Nat)
    (account : Address) :
    let ws := (Wallets.start records).after repository.store tasks
    let stored := ∃ written, repository.text ws.records account.recordName = some written
    let left := Wallets.LeftBehind repository.store (Wallets.start records) tasks i account
    (stored ∨ left → ∃ key secret, key.secret = .ok secret ∧ secret.address = account ∧
        Uses repository.store ws i account key secret) ∧
      (¬ (stored ∨ left) → Lacks repository.store ws i account) := by
  intro ws stored left
  obtain ⟨shows, keeps, none_held⟩ := repository.keeps
  have shown := none_held records new
  obtain ⟨held, sound⟩ := (Wallets.Sound.start shown).after keeps tasks
  have stored_iff : stored ↔ held.find? account ≠ none := by
    change (∃ written, repository.text ws.records account.recordName = some written) ↔ _
    rw [← Option.ne_none_iff_exists', Ne, keeps.text_none sound.shown account]
  constructor
  · intro usable
    have known : ((ws.caches i).find? account).or (held.find? account) ≠ none := by
      intro nothing
      obtain ⟨unknown, missing⟩ := Option.or_eq_none_iff.mp nothing
      rcases usable with there | behind
      · exact stored_iff.mp there missing
      · obtain ⟨key, cached⟩ := behind.caches
        rw [unknown] at cached
        cases cached
    obtain ⟨key, known⟩ := Option.ne_none_iff_exists'.mp known
    obtain ⟨secret, holds, own, uses⟩ := sound.uses keeps known
    exact ⟨key, secret, holds, own, uses⟩
  · intro unusable
    have missing : held.find? account = none := by
      by_contra found
      exact unusable (.inl (stored_iff.mpr found))
    have unknown : (ws.caches i).find? account = none := by
      by_contra found
      obtain ⟨key, cached⟩ := Option.ne_none_iff_exists'.mp found
      exact unusable (Wallets.Sound.stored_or_left keeps shown ⟨key, cached⟩)
    exact sound.lacks keeps unknown missing

/-- The wallet whose key was deleted by another uses it. -/
theorem left_behind_used :
    let secret : SecretKey := ⟨1, by decide, by decide⟩
    let ws := (Wallets.start []).after Keystore.memory (sharedAndDeleted secret)
    Repository.memory.IsNew [] ∧ ∃ key secret', key.secret = .ok secret' ∧
      secret'.address = secret.address ∧
      Uses Keystore.memory ws 1 secret.address key secret' := by
  intro secret ws
  obtain ⟨uses, -⟩ :=
    used_if_stored_or_left .memory [] rfl (sharedAndDeleted secret) 1 secret.address
  exact ⟨rfl, uses (.inr (left_behind secret))⟩

/-- No record is there, and a key is shown, signed with, and refused to be stored. -/
theorem deleted_key_used :
    let secret : SecretKey := ⟨1, by decide, by decide⟩
    ((Wallets.start []).after Keystore.memory (sharedAndDeleted secret)).records = [] ∧
      Uses Keystore.memory ((Wallets.start []).after Keystore.memory (sharedAndDeleted secret)) 1
        secret.address ⟨secret.text⟩ secret := by
  intro secret
  exact deleted_used secret

end ProviderWallet
