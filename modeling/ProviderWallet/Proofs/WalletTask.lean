import Mathlib.Data.List.Nodup
import ProviderWallet.Proofs.KeptRecords

namespace ProviderWallet

open Keystore (OthersKept)

variable {σ : Type}

/-- What a wallet is asked to do. -/
inductive WalletTask where
  | find (account : Address)
  | sign (account : Address) (message : Bytes)
  | reveal (account : Address)
  | importKey (fresh : Fresh) (key : KeyText)
  | generate (fresh : Fresh) (secret : SecretKey)
  | delete (account : Address)
  | list

inductive WalletReply where
  | found (key : Option KeyText)
  | signed (signature : String)
  | revealed (key : KeyText)
  | stored (account : Address)
  | deleted
  | listed (accounts : List Address)

namespace WalletTask

def Stores (task : WalletTask) (key : KeyText) : Prop :=
  match task with
  | .importKey _ key' => key' = key
  | .generate _ secret => ⟨secret.text⟩ = key
  | _ => False

def run (store : Keystore σ) (task : WalletTask) (w : Wallet σ) :
    Except Failure WalletReply × Wallet σ :=
  match task with
  | .find account => (w.find store account).map (·.map .found) id
  | .sign account message => (w.sign store account message).map (·.map .signed) id
  | .reveal account => (w.reveal store account).map (·.map .revealed) id
  | .importKey fresh key => (w.importKey store fresh key).map (·.map .stored) id
  | .generate fresh secret => (w.generate store fresh secret).map (·.map .stored) id
  | .delete account => (w.delete store account).map (·.map fun () => .deleted) id
  | .list => ((w.list store).map .listed, w)

end WalletTask

/-- A text that has an address holds a secret of it. -/
theorem KeyText.secret_of_address {key : KeyText} {account : Address}
    (address : key.address = .ok account) :
    ∃ secret, key.secret = .ok secret ∧ secret.address = account := by
  rw [KeyText.address] at address
  cases known : key.secret with
  | error f =>
    rw [known] at address
    cases address
  | ok secret =>
    rw [known] at address
    exact ⟨secret, rfl, Except.ok.inj address⟩

def Cache.Valid (cache : Cache) : Prop :=
  ∀ account key, (account, key) ∈ cache → key.address = .ok account

namespace Cache.Valid

variable {cache : Cache} {account : Address} {key : KeyText}

theorem find (h : cache.Valid) (found : cache.find? account = some key) :
    key.address = .ok account :=
  h account key (mem_of_lookup found)

theorem erase (h : cache.Valid) (account : Address) : (cache.erase account).Valid :=
  fun other key among => h other key (List.mem_filter.mp among).1

theorem cons (h : cache.Valid) (address : key.address = .ok account) :
    Cache.Valid ((account, key) :: cache) := by
  intro other key' among
  rcases List.mem_cons.mp among with same | among
  · obtain ⟨rfl, rfl⟩ := Prod.mk.inj same
    exact address
  · exact h other key' among

theorem insert (h : cache.Valid) (address : key.address = .ok account) :
    (cache.insert account key).Valid :=
  (h.erase account).cons address

end Cache.Valid

def WalletReply.SaysChange : WalletReply → Prop
  | .stored _ | .deleted => True
  | _ => False

inductive Change (text : σ → (name : String) → Option String) (task : WalletTask) (s s' : σ)
    (held : Cache) : Except Failure WalletReply → Cache → Prop where
  | nothing (reply : Except Failure WalletReply) (same : s' = s)
      (quiet : ∀ r, reply = .ok r → ¬ r.SaysChange) : Change text task s s' held reply held
  | stores (account : Address) (key : KeyText) (free : held.find? account = none)
      (stores : task.Stores key) (address : key.address = .ok account)
      (others : OthersKept text account s s') :
      Change text task s s' held (.ok (.stored account)) ((account, key) :: held)
  | deletes (account : Address) (key : KeyText) (found : held.find? account = some key)
      (deletes : task = .delete account) (others : OthersKept text account s s') :
      Change text task s s' held (.ok .deleted) (held.erase account)

namespace Change

variable {text : σ → (name : String) → Option String} {task : WalletTask} {s s' : σ}
  {held held' : Cache} {reply : Except Failure WalletReply}

/-- Keys stay with their own addresses. -/
theorem valid (change : Change text task s s' held reply held') (valid : held.Valid) :
    held'.Valid := by
  cases change with
  | nothing => exact valid
  | stores account key free stores address => exact valid.cons address
  | deletes account => exact valid.erase account

theorem once (change : Change text task s s' held reply held')
    (once : (held.map Prod.fst).Nodup) : (held'.map Prod.fst).Nodup := by
  cases change with
  | nothing => exact once
  | stores account key free =>
    refine List.nodup_cons.mpr ⟨fun among => ?_, once⟩
    obtain ⟨record, found, same⟩ := List.mem_map.mp among
    have differ := List.lookup_eq_none_iff.mp free record found
    rw [same] at differ
    simp at differ
  | deletes account => exact once.sublist (List.filter_sublist.map _)

end Change

/-- What is known of a wallet when it has done a task. -/
structure Done (text : σ → (name : String) → Option String) (shows : σ → Cache → Prop)
    (task : WalletTask) (w : Wallet σ) (held : Cache)
    (outcome : Except Failure WalletReply × Wallet σ) : Prop where
  cached : outcome.2.cache.Valid
  kept : ∃ held', shows outcome.2.records held' ∧
    Change text task w.records outcome.2.records held outcome.1 held'

namespace Wallet

variable {store : Keystore σ} {text : σ → (name : String) → Option String}
  {shows : σ → Cache → Prop} {held : Cache} {w : Wallet σ}

section found

theorem ok_bind {α β : Type} (a : α) (f : α → Except Failure β) : (Except.ok a >>= f) = f a := rfl

variable {account : Address} {key : KeyText}

theorem require_found (found : (w.find store account).1 = .ok (some key)) (task : String) :
    (w.require store task account).1 = .ok key := by
  unfold require
  generalize w.find store account = outcome at found
  obtain ⟨result, w'⟩ := outcome
  cases found
  rfl

theorem require_missing (missing : (w.find store account).1 = .ok none) (task : String) :
    (w.require store task account).1 = .error (.keyNotFound account.text task) := by
  unfold require
  generalize w.find store account = outcome at missing
  obtain ⟨result, w'⟩ := outcome
  cases missing
  rfl

theorem require_failed {f : Failure} (failed : (w.find store account).1 = .error f)
    (task : String) : (w.require store task account).1 = .error f := by
  unfold require
  generalize w.find store account = outcome at failed
  obtain ⟨result, w'⟩ := outcome
  cases failed
  rfl

theorem sign_required (required : (w.require store "sign" account).1 = .ok key)
    (message : Bytes) : (w.sign store account message).1 = do
      let secret ← key.secret
      return Text.Hex.encodeMarked (← secret.signMessage message) := by
  unfold sign
  generalize w.require store "sign" account = outcome at required
  obtain ⟨result, w'⟩ := outcome
  cases required
  rfl

theorem sign_found (found : (w.find store account).1 = .ok (some key)) {secret : SecretKey}
    (known : key.secret = .ok secret) (message : Bytes) :
    (w.sign store account message).1 =
      (secret.signMessage message).map Text.Hex.encodeMarked := by
  rw [sign_required (require_found found "sign"), known, ok_bind]
  generalize secret.signMessage message = signature
  cases signature <;> rfl

theorem sign_failed {f : Failure} (failed : (w.require store "sign" account).1 = .error f)
    (message : Bytes) : (w.sign store account message).1 = .error f := by
  unfold sign
  generalize w.require store "sign" account = outcome at failed
  obtain ⟨result, w'⟩ := outcome
  cases failed
  rfl

end found

theorem find_records (store : Keystore σ) (w : Wallet σ) (account : Address) :
    (w.find store account).2.records = w.records := by
  unfold find
  split
  · rfl
  · split <;> rfl

/-- To look a key up is all that a wallet does with its state when it needs one. -/
theorem require_state (w : Wallet σ) (store : Keystore σ) (task : String) (account : Address) :
    (w.require store task account).2 = (w.find store account).2 := by
  unfold require
  generalize w.find store account = outcome
  obtain ⟨result, w'⟩ := outcome
  match result with
  | .error f => rfl
  | .ok none => rfl
  | .ok (some key) => rfl

theorem sign_state (w : Wallet σ) (store : Keystore σ) (account : Address) (message : Bytes) :
    (w.sign store account message).2 = (w.find store account).2 := by
  rw [← w.require_state store "sign"]
  unfold sign
  generalize w.require store "sign" account = outcome
  obtain ⟨result, w'⟩ := outcome
  cases result with
  | error f => rfl
  | ok key => rfl

/-- Looking a key up changes the cache at most, and finds what the cache or a record holds. -/
theorem find_spec (keeps : store.Keeps text shows) (shown : shows w.records held)
    (valid : held.Valid) (cached : w.cache.Valid) (account : Address) :
    (w.find store account).1 = .ok ((w.cache.find? account).or (held.find? account)) ∧
      (w.find store account).2.records = w.records ∧
      (w.find store account).2.cache.Valid := by
  unfold find
  cases known : w.cache.find? account with
  | some key => exact ⟨rfl, rfl, cached⟩
  | none =>
    rw [keeps.get shown account]
    cases found : held.find? account with
    | none => exact ⟨rfl, rfl, cached⟩
    | some key => exact ⟨rfl, rfl, cached.insert (valid.find found)⟩

theorem isTaken_spec (keeps : store.Keeps text shows) (shown : shows w.records held)
    (account : Address) :
    w.isTaken store account =
      .ok ((w.cache.find? account).or (held.find? account)).isSome := by
  unfold isTaken
  cases known : w.cache.find? account with
  | some key => rfl
  | none =>
    rw [keeps.get shown account]
    rfl

/-- What becomes of a wallet that stores a key. -/
theorem importKey_stored {key : KeyText} {account : Address} {fresh : Fresh} {records : σ}
    (address : key.address = .ok account) (vacant : w.isTaken store account = .ok false)
    (put : store.put fresh w.records account.recordName key = (.ok (), records)) :
    w.importKey store fresh key = (.ok account, ⟨w.cache.insert account key, records⟩) := by
  unfold importKey
  simp only [address, vacant, put]

inductive Storing (store : Keystore σ) (w : Wallet σ) (fresh : Fresh) (key : KeyText) :
    Except Failure Address × Wallet σ → Prop where
  | refused (f : Failure) : Storing store w fresh key (.error f, w)
  | failed (account : Address) (f f' : Failure) (records : σ)
      (put : store.put fresh w.records account.recordName key = (.error f, records)) :
      Storing store w fresh key (.error f', { w with records })
  | stored (account : Address) (records : σ) (address : key.address = .ok account)
      (put : store.put fresh w.records account.recordName key = (.ok (), records)) :
      Storing store w fresh key (.ok account, ⟨w.cache.insert account key, records⟩)

/-- Importing a key is storing it, after it was read. -/
theorem importKey_storing (store : Keystore σ) (w : Wallet σ) (fresh : Fresh) (key : KeyText) :
    Storing store w fresh key (w.importKey store fresh key) := by
  unfold importKey
  cases address : key.address with
  | error f => exact .refused f
  | ok account =>
    dsimp only
    match w.isTaken store account with
    | .error f => exact .refused f
    | .ok true => exact .refused _
    | .ok false =>
      dsimp only
      split
      · rename_i f records put
        exact .failed account f _ records put
      · rename_i records put
        exact .stored account records address put

/-- A new key is stored as its digits. -/
theorem generate_storing (store : Keystore σ) (w : Wallet σ) (fresh : Fresh)
    (secret : SecretKey) :
    Storing store w fresh ⟨secret.text⟩ (w.generate store fresh secret) := by
  unfold generate
  dsimp only
  split
  · rename_i f records put
    exact .failed secret.address f f records put
  · rename_i records put
    exact .stored secret.address records secret.address_text put

/-- A key of an address that has none is stored, unless the cache has one that was deleted. -/
theorem importKey_free (keeps : store.Keeps text shows) (shown : shows w.records held)
    {key : KeyText} {account : Address} (address : key.address = .ok account)
    (unknown : w.cache.find? account = none) (free : held.find? account = none) (fresh : Fresh) :
    (w.importKey store fresh key).1 = .ok account := by
  obtain ⟨records, put, -⟩ := keeps.put_free shown free fresh key
  have vacant : w.isTaken store account = .ok false := by
    rw [isTaken_spec keeps shown, unknown, free]
    rfl
  rw [importKey_stored address vacant put]

theorem generate_free (keeps : store.Keeps text shows) (shown : shows w.records held)
    {secret : SecretKey} (free : held.find? secret.address = none) (fresh : Fresh) :
    (w.generate store fresh secret).1 = .ok secret.address := by
  obtain ⟨records, put, -⟩ := keeps.put_free shown free fresh ⟨secret.text⟩
  unfold generate
  simp only [put]

/-- A key that is held can be deleted. -/
theorem delete_found (keeps : store.Keeps text shows) (shown : shows w.records held)
    {account : Address} {key : KeyText} (found : held.find? account = some key) :
    (w.delete store account).1 = .ok () := by
  obtain ⟨records, deleted, -⟩ := keeps.delete_found shown found
  unfold delete
  rw [deleted]
  rfl

end Wallet

namespace Done

variable {store : Keystore σ} {text : σ → (name : String) → Option String}
  {shows : σ → Cache → Prop} {held : Cache} {w w' : Wallet σ} {task : WalletTask}

/-- What only reads leaves everything as it is. -/
theorem of_same {reply : Except Failure WalletReply} (shown : shows w.records held)
    (same : w'.records = w.records) (cached : w'.cache.Valid)
    (quiet : ∀ r, reply = .ok r → ¬ r.SaysChange) : Done text shows task w held (reply, w') := by
  refine ⟨cached, held, ?_, .nothing reply same quiet⟩
  change shows w'.records held
  rw [same]
  exact shown

theorem of_error (shown : shows w.records held) (same : w'.records = w.records)
    (cached : w'.cache.Valid) (f : Failure) : Done text shows task w held (.error f, w') :=
  of_same shown same cached fun _ said => nomatch said

theorem of_result {α : Type} {result : Except Failure α} {f : α → WalletReply}
    (shown : shows w.records held) (same : w'.records = w.records) (cached : w'.cache.Valid)
    (quiet : ∀ x, ¬ (f x).SaysChange) : Done text shows task w held (result.map f, w') := by
  cases result with
  | error failure => exact of_error shown same cached failure
  | ok x =>
    refine of_same shown same cached fun r said => ?_
    cases said
    exact quiet x

variable (keeps : store.Keeps text shows) (shown : shows w.records held) (cached : w.cache.Valid)

include keeps shown cached

theorem importKey (fresh : Fresh) (key : KeyText) :
    Done text shows (.importKey fresh key) w held
      (WalletTask.run store (.importKey fresh key) w) := by
  change Done text shows _ w held ((w.importKey store fresh key).map (·.map .stored) id)
  unfold Wallet.importKey
  cases address : key.address with
  | error f => exact of_error shown rfl cached f
  | ok account =>
    simp only [Wallet.isTaken_spec keeps shown account]
    cases known : w.cache.find? account with
    | some old => exact of_error shown rfl cached _
    | none =>
      cases free : held.find? account with
      | some old => exact of_error shown rfl cached _
      | none =>
        obtain ⟨records, put, shown', others⟩ := keeps.put_free shown free fresh key
        simp only [Option.or_self, Option.isSome_none, put]
        exact ⟨cached.insert address, _, shown', .stores account key free rfl address others⟩

theorem generate (fresh : Fresh) (secret : SecretKey) :
    Done text shows (.generate fresh secret) w held
      (WalletTask.run store (.generate fresh secret) w) := by
  change Done text shows _ w held ((w.generate store fresh secret).map (·.map .stored) id)
  have address := secret.address_text
  unfold Wallet.generate
  cases free : held.find? secret.address with
  | some old =>
    have refused := keeps.put_taken shown free fresh ⟨secret.text⟩
    simp only [refused]
    exact of_error shown rfl cached _
  | none =>
    obtain ⟨records, put, shown', others⟩ := keeps.put_free shown free fresh ⟨secret.text⟩
    simp only [put]
    exact ⟨cached.insert address, _, shown', .stores _ _ free rfl address others⟩

theorem delete (account : Address) :
    Done text shows (.delete account) w held (WalletTask.run store (.delete account) w) := by
  change Done text shows _ w held ((w.delete store account).map (·.map fun () => .deleted) id)
  unfold Wallet.delete
  cases found : held.find? account with
  | none =>
    obtain ⟨reason, missing⟩ := keeps.delete_missing shown found
    rw [missing]
    refine of_error shown ?_ (cached.erase account) _
    rfl
  | some key =>
    obtain ⟨records, deleted, shown', others⟩ := keeps.delete_found shown found
    rw [deleted]
    exact ⟨cached.erase account, _, shown', .deletes account key found rfl others⟩

/-- Every task, whatever comes of it. -/
theorem run (valid : held.Valid) (task : WalletTask) :
    Done text shows task w held (task.run store w) := by
  cases task with
  | find account =>
    obtain ⟨-, same, cached'⟩ := Wallet.find_spec keeps shown valid cached account
    exact of_result shown same cached' fun _ => id
  | sign account message =>
    obtain ⟨-, same, cached'⟩ := Wallet.find_spec keeps shown valid cached account
    rw [← w.sign_state store account message] at same cached'
    exact of_result shown same cached' fun _ => id
  | reveal account =>
    obtain ⟨-, same, cached'⟩ := Wallet.find_spec keeps shown valid cached account
    rw [← w.require_state store "export"] at same cached'
    exact of_result shown same cached' fun _ => id
  | importKey fresh key => exact importKey keeps shown cached fresh key
  | generate fresh secret => exact generate keeps shown cached fresh secret
  | delete account => exact delete keeps shown cached account
  | list => exact of_result shown rfl cached fun _ => id

end Done

end ProviderWallet
