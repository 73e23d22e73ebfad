import Mathlib.Logic.Function.Basic
import ProviderWallet.Proofs.FolderRecords
import ProviderWallet.Proofs.WalletTask

namespace ProviderWallet

open Keystore (Folder Records)

inductive Repository : Type → Type where
  | memory : Repository Records
  | folder (folder : Folder) : Repository Storage.Files

namespace Repository

variable {σ : Type}

def store : Repository σ → Keystore σ
  | .memory => Keystore.memory
  | .folder f => f.keystore

/-- The text of a record, which is not that of its key if the key is sealed. -/
def text : Repository σ → σ → (name : String) → Option String
  | .memory => Keystore.textInMemory
  | .folder f => f.textOf

/-- Nothing has been kept yet. A folder is there by then, and nothing is in it. -/
def IsNew : Repository σ → σ → Prop
  | .memory, records => records = []
  | .folder f, files =>
    ∃ place, f.Reaches files place ∧ ∀ name, files.entryAt? (place ++ [name]) = none

/-- Every repository keeps keys, and a new one has none. -/
theorem keeps (repository : Repository σ) :
    ∃ shows, repository.store.Keeps repository.text shows ∧
      ∀ records, repository.IsNew records → shows records [] := by
  cases repository with
  | memory => exact ⟨_, Keystore.memory_keeps, fun records empty => empty⟩
  | folder f =>
    refine ⟨f.Holds, f.keystore_keeps, ?_⟩
    rintro files ⟨place, reaches, empty⟩
    exact Folder.holds_nothing reaches empty

end Repository

variable {σ : Type}

structure Wallets (σ : Type) where
  caches : Nat → Cache
  records : σ

namespace Wallets

def start (records : σ) : Wallets σ :=
  ⟨fun _ => [], records⟩

def wallet (ws : Wallets σ) (i : Nat) : Wallet σ :=
  ⟨ws.caches i, ws.records⟩

def perform (store : Keystore σ) (ws : Wallets σ) (i : Nat) (task : WalletTask) :
    Except Failure WalletReply × Wallets σ :=
  let (reply, w) := task.run store (ws.wallet i)
  (reply, ⟨Function.update ws.caches i w.cache, w.records⟩)

def after (store : Keystore σ) (ws : Wallets σ) (tasks : List (Nat × WalletTask)) : Wallets σ :=
  tasks.foldl (fun ws (i, task) => (ws.perform store i task).2) ws

end Wallets

def Cache.accounts (held : Cache) : List Address :=
  (Keystore.sortNames (held.map fun (account, _) => account.recordName)).filterMap
    Address.ofRecordName?

namespace Cache

theorem map_recordName_filterMap {names : List String}
    (h : ∀ name ∈ names, ∃ account : Address, name = account.recordName) :
    (names.filterMap Address.ofRecordName?).map Address.recordName = names := by
  induction names with
  | nil => rfl
  | cons name names ih =>
    obtain ⟨account, rfl⟩ := h name List.mem_cons_self
    have rest := ih fun other among => h other (List.mem_cons_of_mem _ among)
    rw [List.filterMap_cons_some account.ofRecordName?_recordName, List.map_cons, rest]

variable (held : Cache)

theorem map_recordName_accounts :
    held.accounts.map Address.recordName =
      Keystore.sortNames (held.map fun (account, _) => account.recordName) := by
  refine map_recordName_filterMap fun name among => ?_
  rw [(Keystore.sortNames_perm _).mem_iff, List.mem_map] at among
  obtain ⟨⟨account, key⟩, -, rfl⟩ := among
  exact ⟨account, rfl⟩

theorem accounts_perm : held.accounts.Perm (held.map Prod.fst) := by
  have back : (held.map fun (account, _) => account.recordName).filterMap Address.ofRecordName? =
      held.map Prod.fst := by
    induction held with
    | nil => rfl
    | cons record held ih =>
      rw [List.map_cons, List.filterMap_cons_some record.1.ofRecordName?_recordName, ih,
        List.map_cons]
  rw [← back]
  exact (Keystore.sortNames_perm _).filterMap _

/-- Addresses are listed once each, in the order of the names of their records. -/
theorem accounts_ordered (once : (held.map Prod.fst).Nodup) :
    held.accounts.Pairwise fun a b => a.recordName < b.recordName := by
  have different : held.accounts.Nodup := (accounts_perm held).nodup_iff.mpr once
  have sorted := Keystore.sortNames_sorted (held.map fun (account, _) => account.recordName)
  rw [← map_recordName_accounts, List.pairwise_map] at sorted
  refine sorted.imp₂ (fun a b le ne => ?_) different
  rw [← String.not_le]
  exact fun ge => ne (Address.recordName_injective (String.le_antisymm le ge))

theorem mem_accounts {account : Address} :
    account ∈ held.accounts ↔ ∃ key, held.find? account = some key := by
  rw [(accounts_perm held).mem_iff, ← Option.isSome_iff_exists, find?, List.lookup_isSome_iff,
    List.mem_map]
  simp only [beq_iff_eq]
  constructor
  · rintro ⟨record, among, rfl⟩
    exact ⟨record, among, rfl⟩
  · rintro ⟨record, among, same⟩
    exact ⟨record, among, same.symm⟩

theorem find?_eq_none {account : Address} (missing : account ∉ held.accounts) :
    held.find? account = none := by
  rw [Option.eq_none_iff_forall_ne_some]
  exact fun key found => missing (held.mem_accounts.mpr ⟨key, found⟩)

end Cache

namespace Wallets

/-- The records show the keys that are held, each for its own address and none twice, and no cache
has a key of another address. A cache may have a key that is no longer held. -/
structure Sound (shows : σ → Cache → Prop) (ws : Wallets σ) (held : Cache) : Prop where
  shown : shows ws.records held
  valid : held.Valid
  once : (held.map Prod.fst).Nodup
  cached : ∀ i, (ws.caches i).Valid

variable {store : Keystore σ} {text : σ → (name : String) → Option String}
  {shows : σ → Cache → Prop} {held : Cache} {ws : Wallets σ}

/-- Tasks can be done in two goes. -/
theorem after_append (store : Keystore σ) (ws : Wallets σ) (first rest : List (Nat × WalletTask)) :
    ws.after store (first ++ rest) = (ws.after store first).after store rest :=
  List.foldl_append

namespace Sound

theorem start {records : σ} (shown : shows records []) :
    (Wallets.start records).Sound shows [] where
  shown := shown
  valid _ _ among := by cases among
  once := .nil
  cached _ _ _ among := by cases among

/-- One task, of one of the wallets. -/
theorem perform (keeps : store.Keeps text shows) (sound : ws.Sound shows held) (i : Nat)
    (task : WalletTask) :
    ∃ held', (ws.perform store i task).2.Sound shows held' ∧
      Change text task ws.records (ws.perform store i task).2.records held
        (ws.perform store i task).1 held' := by
  obtain ⟨shown, valid, once, cached⟩ := sound
  obtain ⟨cached', held', shown', change⟩ :=
    Done.run (w := ws.wallet i) keeps shown (cached i) valid task
  have caches (j : Nat) : ((ws.perform store i task).2.caches j).Valid := by
    change (Function.update ws.caches i (task.run store (ws.wallet i)).2.cache j).Valid
    by_cases same : j = i
    · subst same
      rw [Function.update_self]
      exact cached'
    · rw [Function.update_of_ne same]
      exact cached j
  exact ⟨held', ⟨shown', change.valid valid, change.once once, caches⟩, change⟩

/-- Any number of tasks. -/
theorem after (keeps : store.Keeps text shows) (sound : ws.Sound shows held)
    (tasks : List (Nat × WalletTask)) : ∃ held', (ws.after store tasks).Sound shows held' := by
  induction tasks generalizing ws held with
  | nil => exact ⟨held, sound⟩
  | cons first tasks ih =>
    obtain ⟨held', sound', -⟩ := sound.perform keeps first.1 first.2
    exact ih sound'

end Sound

end Wallets

/-- What may become of the text of a record while a task is done. -/
inductive Fate (task : WalletTask) (reply : Except Failure WalletReply) (account : Address) :
    (before after : Option String) → Prop where
  | kept (text : Option String) (unsaid : reply ≠ .ok (.stored account))
      (undeleted : task = .delete account → reply ≠ .ok .deleted) :
      Fate task reply account text text
  | removed (text : String) (deletes : task = .delete account) (said : reply = .ok .deleted) :
      Fate task reply account (some text) none
  | stored (text : String) (key : KeyText) (stores : task.Stores key)
      (address : key.address = .ok account) (said : reply = .ok (.stored account)) :
      Fate task reply account none (some text)

/-- Records change only when a wallet says so, and then one of them comes or goes. -/
theorem Change.fate {store : Keystore σ} {text : σ → (name : String) → Option String}
    {shows : σ → Cache → Prop} {task : WalletTask} {s s' : σ} {held held' : Cache}
    {reply : Except Failure WalletReply} (keeps : store.Keeps text shows)
    (change : Change text task s s' held reply held') (shown : shows s held)
    (shown' : shows s' held') (account : Address) :
    Fate task reply account (text s account.recordName) (text s' account.recordName) := by
  cases change with
  | nothing _ same quiet =>
    rw [same]
    exact .kept _ (fun said => quiet _ said trivial) fun _ said => quiet _ said trivial
  | stores other key free stores address others =>
    by_cases same : account = other
    · subst same
      have before := (keeps.text_none shown account).mpr free
      have now : text s' account.recordName ≠ none := by
        rw [Ne, keeps.text_none shown' account, Cache.find?_cons_self]
        exact Option.some_ne_none key
      obtain ⟨written, now⟩ := Option.ne_none_iff_exists'.mp now
      rw [before, now]
      exact .stored written key stores address rfl
    · rw [others account same]
      refine .kept _ (fun said => ?_) fun _ said => nomatch said
      cases said
      exact same rfl
  | deletes other key found deletes others =>
    by_cases same : account = other
    · subst same
      have now := (keeps.text_none shown' account).mpr (held.find?_erase_self account)
      have before : text s account.recordName ≠ none := by
        rw [Ne, keeps.text_none shown account, found]
        exact Option.some_ne_none key
      obtain ⟨written, before⟩ := Option.ne_none_iff_exists'.mp before
      rw [before, now]
      exact .removed written deletes rfl
    · rw [others account same]
      refine .kept _ (fun said => nomatch said) fun deletes' => ?_
      rw [deletes] at deletes'
      cases deletes'
      exact absurd rfl same

/-- A task that fails changes nothing. -/
theorem Change.same_of_error {text : σ → (name : String) → Option String} {task : WalletTask}
    {s s' : σ} {held held' : Cache} {f : Failure}
    (change : Change text task s s' held (.error f) held') : s' = s := by
  cases change with
  | nothing _ same => exact same

namespace Wallets.Sound

variable {store : Keystore σ} {text : σ → (name : String) → Option String}
  {shows : σ → Cache → Prop} {held : Cache} {ws : Wallets σ}

/-- A record that is there and later has not the text it had was deleted. -/
theorem lost (keeps : store.Keeps text shows) (sound : ws.Sound shows held)
    {later : List (Nat × WalletTask)} {account : Address} {written : String}
    (before : text ws.records account.recordName = some written)
    (differ : text (ws.after store later).records account.recordName ≠ some written) :
    ∃ first i rest, later = first ++ (i, .delete account) :: rest ∧
      ((ws.after store first).perform store i (.delete account)).1 = .ok .deleted ∧
      text (ws.after store (first ++ [(i, .delete account)])).records account.recordName =
        none := by
  induction later generalizing ws held with
  | nil => exact absurd before differ
  | cons step later ih =>
    obtain ⟨i, task⟩ := step
    obtain ⟨held', sound', change⟩ := sound.perform keeps i task
    have fate := change.fate keeps sound.shown sound'.shown account
    rw [before] at fate
    generalize now : text (ws.perform store i task).2.records account.recordName = after at fate
    cases fate with
    | kept =>
      obtain ⟨first, j, rest, rfl, said, gone⟩ := ih sound' now differ
      exact ⟨(i, task) :: first, j, rest, rfl, said, gone⟩
    | removed _ deletes said =>
      subst deletes
      exact ⟨[], i, later, rfl, said, now⟩

/-- A record that was not there and later is was stored by a task that has its key. -/
theorem gained (keeps : store.Keeps text shows) (sound : ws.Sound shows held)
    {later : List (Nat × WalletTask)} {account : Address} {written : String}
    (before : text ws.records account.recordName = none)
    (present : text (ws.after store later).records account.recordName = some written) :
    ∃ first i task rest key, later = first ++ (i, task) :: rest ∧ task.Stores key ∧
      key.address = .ok account ∧
      ((ws.after store first).perform store i task).1 = .ok (.stored account) := by
  induction later generalizing ws held with
  | nil =>
    change text ws.records account.recordName = some written at present
    rw [before] at present
    cases present
  | cons step later ih =>
    obtain ⟨i, task⟩ := step
    obtain ⟨held', sound', change⟩ := sound.perform keeps i task
    have fate := change.fate keeps sound.shown sound'.shown account
    rw [before] at fate
    generalize now : text (ws.perform store i task).2.records account.recordName = after at fate
    cases fate with
    | kept =>
      obtain ⟨first, j, other, rest, key, rfl, stores, address, said⟩ := ih sound' now present
      exact ⟨(i, task) :: first, j, other, rest, key, rfl, stores, address, said⟩
    | stored _ key stores address said =>
      exact ⟨[], i, task, later, key, rfl, stores, address, said⟩

end Wallets.Sound

variable {repository : Repository σ} {ws : Wallets σ}

/-- The records are those of the given addresses, in their order. Each has a key of the address that
it is named for, and every wallet knows of it. Keys of other addresses can be stored, and those that
are there can be deleted. -/
structure Agree (repository : Repository σ) (ws : Wallets σ) (accounts : List Address) : Prop where
  names : repository.store.list ws.records = .ok (accounts.map Address.recordName)
  ordered : accounts.Pairwise fun a b => a.recordName < b.recordName
  named (name : String) (key : KeyText)
    (found : repository.store.get ws.records name = .ok (some key)) :
    ∃ account ∈ accounts, name = account.recordName
  written (account : Address) :
    account ∈ accounts ↔ ∃ text, repository.text ws.records account.recordName = some text
  holds (account : Address) (among : account ∈ accounts) :
    ∃ key, repository.store.get ws.records account.recordName = .ok (some key) ∧
      key.address = .ok account
  absent (account : Address) (missing : account ∉ accounts) :
    repository.store.get ws.records account.recordName = .ok none
  once (name name' : String) (key key' : KeyText) (same : key.address = key'.address)
    (found : repository.store.get ws.records name = .ok (some key))
    (found' : repository.store.get ws.records name' = .ok (some key')) : name = name'
  lists (i : Nat) : (ws.wallet i).list repository.store = .ok accounts
  finds (i : Nat) (account : Address) (among : account ∈ accounts) :
    ∃ key, ((ws.wallet i).find repository.store account).1 = .ok (some key) ∧
      key.address = .ok account
  imports (i : Nat) (fresh : Fresh) (key : KeyText) (account : Address)
    (address : key.address = .ok account) (missing : account ∉ accounts)
    (unknown : (ws.caches i).find? account = none) :
    (ws.perform repository.store i (.importKey fresh key)).1 = .ok (.stored account)
  generates (i : Nat) (fresh : Fresh) (secret : SecretKey) (missing : secret.address ∉ accounts) :
    (ws.perform repository.store i (.generate fresh secret)).1 = .ok (.stored secret.address)
  deletes (i : Nat) (account : Address) (among : account ∈ accounts) :
    (ws.perform repository.store i (.delete account)).1 = .ok .deleted

/-- A key that is found under any name is held for its own address. -/
theorem Wallets.Sound.own {shows : σ → Cache → Prop} {held : Cache} {store : Keystore σ}
    {text : σ → (name : String) → Option String} (keeps : store.Keeps text shows)
    (sound : ws.Sound shows held) {name : String} {key : KeyText}
    (found : store.get ws.records name = .ok (some key)) :
    ∃ account ∈ held.accounts, name = account.recordName ∧ key.address = .ok account := by
  obtain ⟨account, rfl⟩ := keeps.named sound.shown found
  rw [keeps.get sound.shown account] at found
  have found := Except.ok.inj found
  exact ⟨account, held.mem_accounts.mpr ⟨key, found⟩, rfl, sound.valid.find found⟩

def Wallets.Knows {σ : Type} (store : Keystore σ) (ws : Wallets σ) (account : Address)
    (key : KeyText) : Prop :=
  store.get ws.records account.recordName = .ok (some key) ∨
    ∃ i, (ws.caches i).find? account = some key

/-- Where an address has a record every wallet finds a key of it, be it an old one. -/
theorem Wallets.Sound.finds_known {shows : σ → Cache → Prop} {held : Cache} {store : Keystore σ}
    {text : σ → (name : String) → Option String} (keeps : store.Keeps text shows)
    (sound : ws.Sound shows held) (i : Nat) {account : Address} {key : KeyText}
    (there : store.get ws.records account.recordName = .ok (some key)) :
    ∃ found, ((ws.wallet i).find store account).1 = .ok (some found) ∧
      found.address = .ok account ∧ ws.Knows store account found := by
  obtain ⟨shown, valid, -, cached⟩ := sound
  obtain ⟨result, -, -⟩ :=
    Wallet.find_spec (w := ws.wallet i) keeps shown valid (cached i) account
  have stored : held.find? account = some key := by
    rw [keeps.get shown account] at there
    exact Except.ok.inj there
  rw [result]
  cases known : (ws.caches i).find? account with
  | some old => exact ⟨old, by rw [wallet, known]; rfl, (cached i).find known, .inr ⟨i, known⟩⟩
  | none => exact ⟨key, by rw [wallet, known, stored]; rfl, valid.find stored, .inl there⟩

theorem Wallets.Sound.finds {shows : σ → Cache → Prop} {held : Cache} {store : Keystore σ}
    {text : σ → (name : String) → Option String} (keeps : store.Keeps text shows)
    (sound : ws.Sound shows held) (i : Nat) {account : Address}
    (among : account ∈ held.accounts) :
    ∃ key, ((ws.wallet i).find store account).1 = .ok (some key) ∧
      key.address = .ok account := by
  obtain ⟨key, there⟩ := held.mem_accounts.mp among
  have stored : store.get ws.records account.recordName = .ok (some key) := by
    rw [keeps.get sound.shown account, there]
  obtain ⟨found, result, address, -⟩ := sound.finds_known keeps i stored
  exact ⟨found, result, address⟩

/-- Where records and caches are sound, all wallets agree with the records. -/
theorem Wallets.Sound.agree {shows : σ → Cache → Prop} {held : Cache}
    (keeps : repository.store.Keeps repository.text shows) (sound : ws.Sound shows held) :
    Agree repository ws held.accounts := by
  have shown := sound.shown
  have names : repository.store.list ws.records =
      .ok (held.accounts.map Address.recordName) := by
    rw [keeps.list shown, held.map_recordName_accounts]
  refine ⟨names, held.accounts_ordered sound.once, ?_, ?_, ?_, ?_, ?_, ?_,
    fun i account among => sound.finds keeps i among, ?_, ?_, ?_⟩
  · intro name key found
    obtain ⟨account, among, same, -⟩ := sound.own keeps found
    exact ⟨account, among, same⟩
  · intro account
    rw [held.mem_accounts, ← Option.ne_none_iff_exists', ← Option.ne_none_iff_exists', Ne, Ne,
      keeps.text_none shown account]
  · intro account among
    obtain ⟨key, found⟩ := held.mem_accounts.mp among
    exact ⟨key, by rw [keeps.get shown account, found], sound.valid.find found⟩
  · intro account missing
    rw [keeps.get shown account, held.find?_eq_none missing]
  · intro name name' key key' same found found'
    obtain ⟨account, -, rfl, address⟩ := sound.own keeps found
    obtain ⟨account', -, rfl, address'⟩ := sound.own keeps found'
    rw [address, address'] at same
    rw [Except.ok.inj same]
  · intro i
    change (repository.store.list ws.records).map _ = _
    rw [keeps.list shown]
    rfl
  · intro i fresh key account address missing unknown
    have stored := Wallet.importKey_free (w := ws.wallet i) keeps shown address unknown
      (held.find?_eq_none missing) fresh
    exact congrArg (Except.map WalletReply.stored) stored
  · intro i fresh secret missing
    have stored := Wallet.generate_free (w := ws.wallet i) keeps shown
      (held.find?_eq_none missing) fresh
    exact congrArg (Except.map WalletReply.stored) stored
  · intro i account among
    obtain ⟨key, found⟩ := held.mem_accounts.mp among
    have deleted := Wallet.delete_found (w := ws.wallet i) keeps shown found
    exact congrArg (Except.map fun () => WalletReply.deleted) deleted

/-- Among tasks is one that deletes the record of an address, and after that one that stores it. -/
def Replaced (store : Keystore σ) (ws : Wallets σ) (account : Address)
    (tasks : List (Nat × WalletTask)) : Prop :=
  ∃ first i between j task rest key,
    tasks = first ++ (i, .delete account) :: (between ++ (j, task) :: rest) ∧
      ((ws.after store first).perform store i (.delete account)).1 = .ok .deleted ∧
      task.Stores key ∧ key.address = .ok account ∧
      ((ws.after store (first ++ (i, .delete account) :: between)).perform store j task).1 =
        .ok (.stored account)

/-- Whatever wallets do with records that nothing else changes, the records and all wallets agree. A
task that fails changes no record, one that does not fail changes one at most, and no record gets
another text but by being deleted and stored again. -/
theorem records_in_custody (repository : Repository σ) (records : σ)
    (new : repository.IsNew records) (tasks : List (Nat × WalletTask)) :
    let ws := (Wallets.start records).after repository.store tasks
    (∃ accounts, Agree repository ws accounts) ∧
    (∀ i task failure, (ws.perform repository.store i task).1 = .error failure →
      (ws.perform repository.store i task).2.records = ws.records) ∧
    (∀ i task account, Fate task (ws.perform repository.store i task).1 account
      (repository.text ws.records account.recordName)
      (repository.text (ws.perform repository.store i task).2.records account.recordName)) ∧
    ∀ later account text text', repository.text ws.records account.recordName = some text →
      repository.text (ws.after repository.store later).records account.recordName = some text' →
      text ≠ text' → Replaced repository.store ws account later := by
  intro ws
  obtain ⟨shows, keeps, none_held⟩ := repository.keeps
  obtain ⟨held, sound⟩ :=
    (Wallets.Sound.start (none_held records new)).after keeps tasks
  refine ⟨⟨held.accounts, sound.agree keeps⟩, ?_, ?_, ?_⟩
  · intro i task failure failed
    obtain ⟨held', -, change⟩ := sound.perform keeps i task
    rw [failed] at change
    exact change.same_of_error
  · intro i task account
    obtain ⟨held', sound', change⟩ := sound.perform keeps i task
    exact change.fate keeps sound.shown sound'.shown account
  · intro later account text text' before present differ
    have lost : repository.text (ws.after repository.store later).records account.recordName ≠
        some text := by
      rw [present]
      exact fun same => differ (Option.some.inj same).symm
    obtain ⟨first, i, after, rfl, deleted, gone⟩ := sound.lost keeps before lost
    obtain ⟨held', sound'⟩ := sound.after keeps (first ++ [(i, .delete account)])
    rw [List.append_cons, Wallets.after_append] at present
    obtain ⟨between, j, task, rest, key, rfl, stores, address, stored⟩ :=
      sound'.gained keeps gone present
    refine ⟨first, i, between, j, task, rest, key, rfl, deleted, stores, address, ?_⟩
    rw [← Wallets.after_append] at stored
    simpa using stored

/-- Two wallets over a folder of sealed records. One generates a key, the other uses and deletes it,
and the first, which still has it in its cache, generates it again. -/
theorem folder_in_custody :
    let repository := Repository.folder ⟨"/keys", some "secret"⟩
    let files := Storage.Files.withFolder ["keys"]
    let secret : SecretKey := ⟨1, by decide, by decide⟩
    let tasks : List (Nat × WalletTask) :=
      [(0, .generate ⟨0, 0, 0⟩ secret), (1, .sign secret.address [7]), (1, .delete secret.address),
        (0, .generate ⟨1, 1, 1⟩ secret)]
    repository.IsNew files ∧
      ∃ accounts,
        Agree repository ((Wallets.start files).after repository.store tasks) accounts := by
  intro repository files secret tasks
  have new : repository.IsNew files := by
    refine ⟨["keys"], ⟨by decide +kernel, ⟨0o755, rfl⟩, by decide⟩, fun name => ?_⟩
    rfl
  exact ⟨new, (records_in_custody repository files new tasks).1⟩

end ProviderWallet
