import ProviderWallet.Proofs.KeyReading

namespace ProviderWallet

open Text

namespace KeyText

variable {key : KeyText} {secret : SecretKey}

structure Bare (key : KeyText) : Prop where
  length : key.text.toList.length = 64
  digits : ∀ c ∈ key.text.toList, IsHexDigit c

def Dressed (key : KeyText) : Prop :=
  Blank.trim key.text.toList ≠ key.text.toList ∨ body key.text.toList ≠ key.text.toList

theorem bare_text (secret : SecretKey) : (⟨secret.text⟩ : KeyText).Bare :=
  ⟨secret.length_text, fun _ => secret.isHexDigit_of_mem⟩

/-- There is nothing around digits that are all of the text. -/
theorem Bare.undressed (bare : key.Bare) : ¬ key.Dressed := by
  rintro (blanks | mark)
  · exact blanks (Blank.trim_eq fun c among => (bare.digits c among).not_blank)
  · exact mark (body_eq fun c among => (bare.digits c among).ne_x)

/-- Whatever stands around them, the digits of a key are 64. -/
theorem digits_of_secret (holds : key.secret = .ok secret) :
    (body (Blank.trim key.text.toList)).length = 64 ∧
      ∀ c ∈ body (Blank.trim key.text.toList), IsHexDigit c := by
  obtain ⟨length, denotes⟩ := writes_iff.mp (secret_eq_ok_iff.mp holds)
  exact ⟨length, denotes.isHexDigit⟩

/-- A key is written with its digits alone exactly if nothing stands around them. -/
theorem bare_iff (holds : key.secret = .ok secret) : key.Bare ↔ ¬ key.Dressed := by
  refine ⟨Bare.undressed, ?_⟩
  intro undressed
  rw [Dressed, not_or, not_not, not_not] at undressed
  obtain ⟨trimmed, unmarked⟩ := undressed
  obtain ⟨length, digits⟩ := digits_of_secret holds
  rw [trimmed, unmarked] at length digits
  exact ⟨length, digits⟩

/-- A key is read from its digits after the mark. -/
theorem secret_marked (secret : SecretKey) :
    (⟨"0x" ++ secret.text⟩ : KeyText).secret = .ok secret :=
  secret_eq_ok_iff.mpr (writes_marked secret)

theorem dressed_marked (secret : SecretKey) : (⟨"0x" ++ secret.text⟩ : KeyText).Dressed := by
  have shown : ("0x" ++ secret.text).toList = '0' :: 'x' :: secret.text.toList :=
    String.toList_append
  right
  intro same
  have shorter := congrArg List.length same
  change (body ("0x" ++ secret.text).toList).length = ("0x" ++ secret.text).toList.length at shorter
  rw [shown, body, List.length_cons, List.length_cons] at shorter
  omega

end KeyText

variable {σ : Type}

namespace Wallets

def Given (store : Keystore σ) (ws : Wallets σ) (tasks : List (Nat × WalletTask))
    (account : Address) (key : KeyText) : Prop :=
  ∃ first i task rest, tasks = first ++ (i, task) :: rest ∧ task.Stores key ∧
    key.address = .ok account ∧
    ((ws.after store first).perform store i task).1 = .ok (.stored account)

variable {store : Keystore σ} {ws : Wallets σ} {tasks : List (Nat × WalletTask)}
  {account : Address} {key : KeyText}

namespace Given

theorem concat (given : Given store ws tasks account key) (step : Nat × WalletTask) :
    Given store ws (tasks ++ [step]) account key := by
  obtain ⟨first, i, task, rest, rfl, stores, address, said⟩ := given
  exact ⟨first, i, task, rest ++ [step], by simp, stores, address, said⟩

theorem last {i : Nat} {task : WalletTask} (stores : task.Stores key)
    (address : key.address = .ok account)
    (said : ((ws.after store tasks).perform store i task).1 = .ok (.stored account)) :
    Given store ws (tasks ++ [(i, task)]) account key :=
  ⟨tasks, i, task, [], rfl, stores, address, said⟩

theorem secret (given : Given store ws tasks account key) :
    ∃ secret, key.secret = .ok secret ∧ secret.address = account := by
  obtain ⟨-, -, -, -, -, -, address, -⟩ := given
  exact KeyText.secret_of_address address

/-- A key is generated without anything around its digits. -/
theorem bare (given : Given store ws tasks account key)
    (undressed : ∀ i fresh other, (i, .importKey fresh other) ∈ tasks → ¬ other.Dressed) :
    key.Bare := by
  obtain ⟨secret, holds, -⟩ := given.secret
  obtain ⟨first, i, task, rest, rfl, stores, -, -⟩ := given
  cases task with
  | importKey fresh other =>
    subst stores
    exact (KeyText.bare_iff holds).mpr (undressed i fresh other (by simp))
  | generate fresh other =>
    subst stores
    exact KeyText.bare_text other
  | find | sign | reveal | delete | list => exact stores.elim

end Given

variable {text : σ → (name : String) → Option String} {shows : σ → Cache → Prop} {held : Cache}

structure AllGiven (store : Keystore σ) (ws : Wallets σ) (tasks : List (Nat × WalletTask))
    (held : Cache) : Prop where
  held (account : Address) (key : KeyText) (found : held.find? account = some key) :
    Given store ws tasks account key
  cached (i : Nat) (account : Address) (key : KeyText)
    (found : ((ws.after store tasks).caches i).find? account = some key) :
    Given store ws tasks account key

namespace AllGiven

theorem start (store : Keystore σ) (records : σ) :
    AllGiven store (Wallets.start records) [] [] where
  held _ _ found := nomatch found
  cached _ _ _ found := nomatch found

/-- What is held after a task was held before, or the task was given it. -/
theorem held_perform (given : AllGiven store ws tasks held) {i : Nat} {task : WalletTask}
    {held' : Cache} (change : Change text task (ws.after store tasks).records
      ((ws.after store tasks).perform store i task).2.records held
      ((ws.after store tasks).perform store i task).1 held')
    (found : held'.find? account = some key) :
    Given store ws (tasks ++ [(i, task)]) account key := by
  generalize said : ((ws.after store tasks).perform store i task).1 = reply at change
  cases change with
  | nothing => exact (given.held account key found).concat _
  | stores other new free stores address =>
    by_cases same : account = other
    · subst same
      rw [Cache.find?_cons_self] at found
      cases found
      exact .last stores address said
    · rw [Cache.find?_cons_of_ne same] at found
      exact (given.held account key found).concat _
  | deletes other =>
    by_cases same : account = other
    · subst same
      rw [Cache.find?_erase_self] at found
      cases found
    · rw [Cache.find?_erase_of_ne same] at found
      exact (given.held account key found).concat _

/-- One task more. -/
theorem perform (keeps : store.Keeps text shows) (sound : (ws.after store tasks).Sound shows held)
    (given : AllGiven store ws tasks held) (i : Nat) (task : WalletTask) :
    ∃ held', (ws.after store (tasks ++ [(i, task)])).Sound shows held' ∧
      AllGiven store ws (tasks ++ [(i, task)]) held' := by
  obtain ⟨held', sound', change⟩ := sound.perform keeps i task
  have after := after_concat store ws tasks (i, task)
  refine ⟨held', after ▸ sound', fun account key => given.held_perform change, ?_⟩
  intro j account key found
  rw [after] at found
  by_cases other : j = i
  · subst other
    cases CacheFate.run store account ((ws.after store tasks).wallet j) task with
    | kept _ same =>
      rw [caches_perform_self, same] at found
      exact (given.cached j account key found).concat _
    | forgotten _ gone =>
      rw [caches_perform_self, gone] at found
      cases found
    | found _ new now there =>
      rw [caches_perform_self, now] at found
      cases found
      have there : store.get ((ws.after store tasks).perform store j task).2.records
        account.recordName = .ok (some key) := there
      rw [keeps.get sound'.shown account] at there
      exact given.held_perform change (Except.ok.inj there)
    | stored _ new stores now said =>
      have valid := (sound'.cached j).find found
      rw [caches_perform_self, now] at found
      cases found
      exact .last stores valid said
  · rw [caches_perform_other other] at found
    exact (given.cached j account key found).concat _

/-- Any number of tasks. -/
theorem after (keeps : store.Keeps text shows) {records : σ} (shown : shows records [])
    (tasks : List (Nat × WalletTask)) :
    ∃ held, ((Wallets.start records).after store tasks).Sound shows held ∧
      AllGiven store (Wallets.start records) tasks held := by
  induction tasks using List.reverseRecOn with
  | nil => exact ⟨[], .start shown, .start store records⟩
  | append_singleton tasks step ih =>
    obtain ⟨held, sound, given⟩ := ih
    exact given.perform keeps sound step.1 step.2

end AllGiven

end Wallets

theorem Wallet.CachesStored.find {w : Wallet σ} {key : KeyText}
    {result : Except Failure Address × Wallet σ} {account : Address}
    (caches : w.CachesStored key result)
    (said : result.1.map WalletReply.stored = .ok (.stored account)) :
    result.2.cache.find? account = some key := by
  cases caches with
  | failed f failed =>
    rw [failed] at said
    cases said
  | stored own stored cached =>
    rw [stored] at said
    cases said
    rw [cached, Cache.find?_insert_self]

/-- A wallet caches the key that it stores. -/
theorem WalletTask.caches {store : Keystore σ} {w : Wallet σ} {task : WalletTask}
    {account : Address} {key : KeyText} (stores : task.Stores key)
    (said : (task.run store w).1 = .ok (.stored account)) :
    (task.run store w).2.cache.find? account = some key := by
  cases task with
  | importKey fresh given =>
    subst stores
    exact (w.importKey_storing store fresh given).caches.find said
  | generate fresh secret =>
    subst stores
    exact (w.generate_storing store fresh secret).caches.find said
  | find | sign | reveal | delete | list => exact stores.elim

/-- A task stores one key at most. -/
theorem WalletTask.Stores.unique {task : WalletTask} {key key' : KeyText}
    (stores : task.Stores key) (stores' : task.Stores key') : key = key' := by
  cases task with
  | importKey fresh given => exact stores.symm.trans stores'
  | generate fresh secret => exact stores.symm.trans stores'
  | find | sign | reveal | delete | list => exact stores.elim

namespace Wallets.Sound

variable {store : Keystore σ} {ws : Wallets σ} {account : Address} {key : KeyText}
  {text : σ → (name : String) → Option String} {shows : σ → Cache → Prop} {held : Cache}

/-- A wallet shows the key that it has cached, and else the one that is held. -/
theorem reveal_iff (keeps : store.Keeps text shows) (sound : ws.Sound shows held) (i : Nat) :
    ((ws.wallet i).reveal store account).1 = .ok key ↔
      ((ws.caches i).find? account).or (held.find? account) = some key := by
  have found := sound.find_eq keeps i account
  cases known : ((ws.caches i).find? account).or (held.find? account) with
  | none =>
    rw [known] at found
    rw [Wallet.reveal, Wallet.require_missing found]
    simp
  | some other =>
    rw [known] at found
    rw [Wallet.reveal, Wallet.require_found found]
    simp

/-- What a task stores is the key that it was given, and its wallet shows that one. -/
theorem stored_as_given (keeps : store.Keeps text shows) (sound : ws.Sound shows held) {i : Nat}
    {task : WalletTask} (stores : task.Stores key)
    (said : (ws.perform store i task).1 = .ok (.stored account)) :
    let ws' := (ws.perform store i task).2
    store.get ws'.records account.recordName = .ok (some key) ∧
      ((ws'.wallet i).reveal store account).1 = .ok key := by
  intro ws'
  obtain ⟨held', sound', change⟩ := sound.perform keeps i task
  have cached : (ws'.caches i).find? account = some key := by
    rw [caches_perform_self]
    exact WalletTask.caches stores said
  refine ⟨?_, (sound'.reveal_iff keeps i).mpr (by rw [cached, Option.some_or])⟩
  rw [keeps.get sound'.shown account]
  rw [said] at change
  cases change with
  | nothing _ _ quiet => exact absurd trivial (quiet _ rfl)
  | stores _ other _ stores' => rw [Cache.find?_cons_self, stores.unique stores']

end Wallets.Sound

open Wallets (Given)

/-- How the keys are spelled that wallets have stored and show when they have done tasks. -/
structure SpelledAsGiven (repository : Repository σ) (records : σ)
    (tasks : List (Nat × WalletTask)) : Prop where
  stored (name : String) (key : KeyText)
    (found : repository.store.get
      ((Wallets.start records).after repository.store tasks).records name = .ok (some key)) :
    ∃ account : Address, name = account.recordName ∧
      Given repository.store (Wallets.start records) tasks account key
  revealed (i : Nat) (account : Address) (key : KeyText)
    (shown : ((((Wallets.start records).after repository.store tasks).wallet i).reveal
      repository.store account).1 = .ok key) :
    Given repository.store (Wallets.start records) tasks account key
  kept (i : Nat) (task : WalletTask) (account : Address) (key : KeyText) (stores : task.Stores key)
    (said : (((Wallets.start records).after repository.store tasks).perform repository.store i
      task).1 = .ok (.stored account)) :
    let ws := (((Wallets.start records).after repository.store tasks).perform repository.store i
      task).2
    repository.store.get ws.records account.recordName = .ok (some key) ∧
      ((ws.wallet i).reveal repository.store account).1 = .ok key
  spelled (account : Address) (key : KeyText)
    (given : Given repository.store (Wallets.start records) tasks account key) :
    ∃ secret, key.secret = .ok secret ∧ secret.address = account ∧ (key.Bare ↔ ¬ key.Dressed)
  bare (undressed : ∀ i fresh key, (i, .importKey fresh key) ∈ tasks → ¬ key.Dressed)
    (account : Address) (key : KeyText)
    (given : Given repository.store (Wallets.start records) tasks account key) : key.Bare

/-- A key is stored and shown in the spelling in which it was given, and in no other. It is 64
digits exactly if no blanks and no mark stood around its digits. -/
theorem keys_stay_as_spelled (repository : Repository σ) (records : σ)
    (new : repository.IsNew records) (tasks : List (Nat × WalletTask)) :
    SpelledAsGiven repository records tasks := by
  obtain ⟨shows, keeps, none_held⟩ := repository.keeps
  obtain ⟨held, sound, given⟩ := Wallets.AllGiven.after keeps (none_held records new) tasks
  refine ⟨?_, ?_, ?_, ?_, ?_⟩
  · intro name key found
    obtain ⟨account, rfl⟩ := keeps.named sound.shown found
    rw [keeps.get sound.shown account] at found
    exact ⟨account, rfl, given.held account key (Except.ok.inj found)⟩
  · intro i account key shown
    rw [sound.reveal_iff keeps i, Option.or_eq_some_iff] at shown
    rcases shown with cached | ⟨-, found⟩
    · exact given.cached i account key cached
    · exact given.held account key found
  · intro i task account key stores said
    exact sound.stored_as_given keeps stores said
  · intro account key given
    obtain ⟨secret, holds, own⟩ := given.secret
    exact ⟨secret, holds, own, KeyText.bare_iff holds⟩
  · intro undressed account key given
    exact given.bare undressed

/-- A wallet shows a key that it generated as 64 digits. -/
theorem generated_key_shown_bare :
    let secret : SecretKey := ⟨1, by decide, by decide⟩
    let ws := (Wallets.start []).after Keystore.memory [(0, .generate ⟨0, 0, 0⟩ secret)]
    Repository.memory.IsNew [] ∧ ∀ i account key,
      ((ws.wallet i).reveal Keystore.memory account).1 = .ok key → key.Bare := by
  intro secret ws
  have spelled :=
    keys_stay_as_spelled .memory [] rfl [(0, .generate ⟨0, 0, 0⟩ secret)]
  refine ⟨rfl, ?_⟩
  intro i account key shown
  refine spelled.bare ?_ account key (spelled.revealed i account key shown)
  simp

/-- A wallet that is given a key after the mark stores and shows it so. -/
theorem marked_import (secret : SecretKey) :
    let key : KeyText := ⟨"0x" ++ secret.text⟩
    let ws := (Wallets.start []).after Keystore.memory [(0, .importKey ⟨0, 0, 0⟩ key)]
    ws.records = [(secret.address.recordName, key)] ∧
      ((ws.wallet 0).reveal Keystore.memory secret.address).1 = .ok key := by
  intro key ws
  have address : key.address = .ok secret.address := by
    rw [KeyText.address, KeyText.secret_marked]
    rfl
  simp [ws, Wallets.after, Wallets.perform, Wallets.wallet, Wallets.start, WalletTask.run,
    Wallet.importKey, address, Wallet.isTaken, Wallet.reveal, Wallet.require, Wallet.find,
    Keystore.memory, Cache.find?, Cache.insert, Except.map]

/-- A key that is given after `0x` is stored and shown with it. -/
theorem mark_stored_and_shown :
    let secret : SecretKey := ⟨1, by decide, by decide⟩
    let key : KeyText := ⟨"0x" ++ secret.text⟩
    let ws := (Wallets.start []).after Keystore.memory [(0, .importKey ⟨0, 0, 0⟩ key)]
    ws.records = [(secret.address.recordName, key)] ∧
      ((ws.wallet 0).reveal Keystore.memory secret.address).1 = .ok key ∧ ¬ key.Bare := by
  intro secret key ws
  obtain ⟨records, shown⟩ := marked_import secret
  exact ⟨records, shown, fun bare => bare.undressed (KeyText.dressed_marked secret)⟩

end ProviderWallet
