import ProviderWallet.Proofs.Custody
import ProviderWallet.Proofs.InTurn
import ProviderWallet.Proofs.LastingRecords

namespace ProviderWallet

open Keystore (Lasting)

variable {σ : Type}

/-- What a wallet is called to do. It judges signatures without its records. -/
inductive WalletCall where
  | task (task : WalletTask)
  | verify (account : Address) (signature message : Bytes)

inductive WalletAnswer where
  | reply (reply : WalletReply)
  | verified (valid : Bool)

namespace WalletCall

def run (store : Keystore σ) (call : WalletCall) (w : Wallet σ) :
    Except Failure WalletAnswer × Wallet σ :=
  match call with
  | .task asked => (asked.run store w).map (·.map .reply) id
  | .verify account signature message =>
    (.ok (.verified (Signature.verify account signature message)), w)

/-- A call without a cache: nothing is cached before, and what is cached meanwhile is dropped. -/
def runUncached (store : Keystore σ) (call : WalletCall) (records : σ) :
    Except Failure WalletAnswer × σ :=
  (call.run store (Wallet.ofRecords records)).map id Wallet.records

end WalletCall

def Wallet.Reflects (store : Keystore σ) (w : Wallet σ) : Prop :=
  ∀ account key, w.cache.find? account = some key →
    store.get w.records account.recordName = .ok (some key)

/-- An outcome with a cache and one without are the same to whoever sees replies and records. -/
structure Unseen {α : Type} (store : Keystore σ) (outcome outcome' : α × Wallet σ) : Prop where
  reply : outcome.1 = outcome'.1
  records : outcome.2.records = outcome'.2.records
  reflects : outcome.2.Reflects store

theorem Unseen.map {α β : Type} {store : Keystore σ} {outcome outcome' : α × Wallet σ}
    (h : Unseen store outcome outcome') (f : α → β) :
    Unseen store (outcome.map f id) (outcome'.map f id) := by
  obtain ⟨reply, records, reflects⟩ := h
  exact ⟨congrArg f reply, records, reflects⟩

namespace Wallet

variable {store : Keystore σ} {w : Wallet σ}

theorem find?_ofRecords (records : σ) (account : Address) :
    (ofRecords records).cache.find? account = none := rfl

theorem reflects_ofRecords (store : Keystore σ) (records : σ) :
    (ofRecords records).Reflects store := by
  intro account key found
  rw [find?_ofRecords] at found
  cases found

namespace Reflects

theorem insert (h : w.Reflects store) {account : Address} {key : KeyText}
    (stored : store.get w.records account.recordName = .ok (some key)) :
    (⟨w.cache.insert account key, w.records⟩ : Wallet σ).Reflects store := by
  intro other key' found
  by_cases same : other = account
  · subst same
    rw [Cache.find?_insert_self] at found
    cases found
    exact stored
  · apply h other key'
    rwa [Cache.find?_insert_of_ne same] at found

theorem put (h : w.Reflects store) (lasting : store.Lasting) (fresh : Fresh) (account : Address)
    (key : KeyText) :
    ({ w with records := (store.put fresh w.records account.recordName key).2 } :
      Wallet σ).Reflects store := by
  intro other old found
  apply lasting.kept_put
  exact h other old found

theorem delete (h : w.Reflects store) (lasting : store.Lasting) (account : Address) :
    (⟨w.cache.erase account, (store.delete w.records account.recordName).2⟩ :
      Wallet σ).Reflects store := by
  intro other old found
  by_cases same : other = account
  · subst same
    rw [Cache.find?_erase_self] at found
    cases found
  · apply lasting.kept_delete same
    apply h other old
    rwa [← Cache.find?_erase_of_ne same]

end Reflects

/-- A look-up finds the same with the cache as without. -/
theorem find_unseen (h : w.Reflects store) (account : Address) :
    Unseen store (w.find store account) ((ofRecords w.records).find store account) := by
  unfold find
  rw [find?_ofRecords]
  cases known : w.cache.find? account with
  | some key =>
    have stored := h account key known
    simp only [ofRecords, stored]
    exact ⟨rfl, rfl, h⟩
  | none =>
    cases found : store.get w.records account.recordName with
    | error f =>
      simp only [ofRecords, found]
      exact ⟨rfl, rfl, h⟩
    | ok result =>
      cases result with
      | none =>
        simp only [ofRecords, found]
        exact ⟨rfl, rfl, h⟩
      | some key =>
        simp only [ofRecords, found]
        exact ⟨rfl, rfl, h.insert found⟩

theorem require_unseen (h : w.Reflects store) (task : String) (account : Address) :
    Unseen store (w.require store task account)
      ((ofRecords w.records).require store task account) := by
  obtain ⟨reply, records, reflects⟩ := find_unseen h account
  unfold require
  generalize w.find store account = outcome at reply records reflects
  generalize (ofRecords w.records).find store account = outcome' at reply records
  obtain ⟨result, w⟩ := outcome
  obtain ⟨result', w'⟩ := outcome'
  cases reply
  match result with
  | .error f => exact ⟨rfl, records, reflects⟩
  | .ok none => exact ⟨rfl, records, reflects⟩
  | .ok (some key) => exact ⟨rfl, records, reflects⟩

theorem sign_unseen (h : w.Reflects store) (account : Address) (message : Bytes) :
    Unseen store (w.sign store account message)
      ((ofRecords w.records).sign store account message) := by
  obtain ⟨reply, records, reflects⟩ := require_unseen h "sign" account
  unfold sign
  generalize w.require store "sign" account = outcome at reply records reflects
  generalize (ofRecords w.records).require store "sign" account = outcome' at reply records
  obtain ⟨result, w⟩ := outcome
  obtain ⟨result', w'⟩ := outcome'
  cases reply
  cases result with
  | error f => exact ⟨rfl, records, reflects⟩
  | ok key => exact ⟨rfl, records, reflects⟩

theorem isTaken_unseen (h : w.Reflects store) (account : Address) :
    w.isTaken store account = (ofRecords w.records).isTaken store account := by
  unfold isTaken
  rw [find?_ofRecords]
  cases known : w.cache.find? account with
  | none => rfl
  | some key =>
    have stored := h account key known
    simp [ofRecords, stored, Except.map]

/-- To store a key comes to the same with the cache as without. -/
theorem importKey_unseen (h : w.Reflects store) (lasting : store.Lasting) (fresh : Fresh)
    (key : KeyText) : Unseen store (w.importKey store fresh key)
      ((ofRecords w.records).importKey store fresh key) := by
  unfold importKey
  cases address : key.address with
  | error f => exact ⟨rfl, rfl, h⟩
  | ok account =>
    simp only [isTaken_unseen h account]
    match (ofRecords w.records).isTaken store account with
    | .error f => exact ⟨rfl, rfl, h⟩
    | .ok true => exact ⟨rfl, rfl, h⟩
    | .ok false =>
      have kept := h.put lasting fresh account key
      cases put : store.put fresh w.records account.recordName key with
      | mk result records =>
        rw [put] at kept
        cases result with
        | error f =>
          simp only [ofRecords, put]
          exact ⟨rfl, rfl, kept⟩
        | ok =>
          simp only [ofRecords, put]
          exact ⟨rfl, rfl, kept.insert (lasting.stored put)⟩

theorem generate_unseen (h : w.Reflects store) (lasting : store.Lasting) (fresh : Fresh)
    (secret : SecretKey) : Unseen store (w.generate store fresh secret)
      ((ofRecords w.records).generate store fresh secret) := by
  unfold generate
  have kept := h.put lasting fresh secret.address ⟨secret.text⟩
  cases put : store.put fresh w.records secret.address.recordName ⟨secret.text⟩ with
  | mk result records =>
    rw [put] at kept
    cases result with
    | error f =>
      simp only [ofRecords, put]
      exact ⟨rfl, rfl, kept⟩
    | ok =>
      simp only [ofRecords, put]
      exact ⟨rfl, rfl, kept.insert (lasting.stored put)⟩

/-- To delete a key comes to the same as well. -/
theorem delete_unseen (h : w.Reflects store) (lasting : store.Lasting) (account : Address) :
    Unseen store (w.delete store account) ((ofRecords w.records).delete store account) := by
  refine ⟨?_, rfl, h.delete lasting account⟩
  unfold delete
  rw [find?_ofRecords]
  cases known : w.cache.find? account with
  | none => rfl
  | some key =>
    -- What a failure would be called does not matter: a key that is cached can be deleted.
    have deleted := lasting.deleted (h account key known)
    simp only [ofRecords, deleted]
    rfl

end Wallet

/-- One task. -/
theorem WalletTask.run_unseen {store : Keystore σ} {w : Wallet σ} (h : w.Reflects store)
    (lasting : store.Lasting) (task : WalletTask) :
    Unseen store (task.run store w) (task.run store (Wallet.ofRecords w.records)) := by
  cases task with
  | find account => exact (Wallet.find_unseen h account).map _
  | sign account message => exact (Wallet.sign_unseen h account message).map _
  | reveal account => exact (Wallet.require_unseen h "export" account).map _
  | importKey fresh key => exact (Wallet.importKey_unseen h lasting fresh key).map _
  | generate fresh secret => exact (Wallet.generate_unseen h lasting fresh secret).map _
  | delete account => exact (Wallet.delete_unseen h lasting account).map _
  | list => exact ⟨rfl, rfl, h⟩

/-- Whatever is called, the cache makes no difference. -/
theorem WalletCall.run_unseen {store : Keystore σ} {w : Wallet σ} (h : w.Reflects store)
    (lasting : store.Lasting) (call : WalletCall) :
    Unseen store (call.run store w) (call.run store (Wallet.ofRecords w.records)) := by
  cases call with
  | task asked => exact (asked.run_unseen h lasting).map _
  | verify => exact ⟨rfl, rfl, h⟩

/-- Records last in every repository. -/
theorem Repository.lasting (repository : Repository σ) : repository.store.Lasting := by
  cases repository with
  | memory => exact Keystore.memory_lasting
  | folder folder => exact folder.keystore_lasting

/-- Whatever is in the records when a wallet starts to use them, it says to every call what it would
say without a cache, and leaves the records that it would leave. -/
theorem cache_unseen (repository : Repository σ) (records : σ) (calls : List WalletCall) :
    let cached := inTurn (WalletCall.run repository.store) calls (Wallet.ofRecords records)
    let uncached := inTurn (WalletCall.runUncached repository.store) calls records
    cached.1 = uncached.1 ∧ cached.2.records = uncached.2 := by
  intro cached uncached
  have one : ∀ call ∈ calls, ∀ (w : Wallet σ) (s : σ),
      w.records = s ∧ w.Reflects repository.store →
      (call.run repository.store w).1 = (call.runUncached repository.store s).1 ∧
        (call.run repository.store w).2.records = (call.runUncached repository.store s).2 ∧
          (call.run repository.store w).2.Reflects repository.store := by
    rintro call - w s ⟨rfl, reflects⟩
    obtain ⟨reply, same, reflects'⟩ := call.run_unseen reflects repository.lasting
    exact ⟨reply, same, reflects'⟩
  obtain ⟨replies, same, -⟩ := inTurn_related one
    ⟨rfl, Wallet.reflects_ofRecords repository.store records⟩
  exact ⟨replies, same⟩

end ProviderWallet
