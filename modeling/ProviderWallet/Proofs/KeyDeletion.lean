import ProviderWallet.Proofs.Custody
import ProviderWallet.Proofs.LastingRecords
import ProviderWallet.Proofs.RecordChanges

namespace ProviderWallet

open Keystore (Folder Records)

variable {σ : Type} {account : Address}

namespace Wallet

/-- What deleting a key does and answers, whatever keeps the records. -/
structure Forgets (store : Keystore σ) (w : Wallet σ) (account : Address) : Prop where
  forgotten : (w.delete store account).2.cache.find? account = none
  remembered : ∀ other, other ≠ account →
    (w.delete store account).2.cache.find? other = w.cache.find? other
  records : (w.delete store account).2.records = (store.delete w.records account.recordName).2
  deleted : (w.delete store account).1 = .ok () ↔
    (store.delete w.records account.recordName).1 = .ok ()
  /-- Of a key that was cached the keystore itself says why it stays. -/
  passed_on : w.cache.find? account ≠ none →
    (w.delete store account).1 = (store.delete w.records account.recordName).1
  /-- Of any other it is said to be missing, whatever the keystore says. -/
  denied : w.cache.find? account = none → ∀ step reason,
    (store.delete w.records account.recordName).1 = .error (.keystore step reason) →
      (w.delete store account).1 = .error (.keyNotFound account.text "delete")

/-- What is answered depends on what the keystore says and on whether the key was cached. -/
theorem delete_reply (store : Keystore σ) (w : Wallet σ) (account : Address) :
    (w.delete store account).1 = (store.delete w.records account.recordName).1.mapError
      (whenDeleting account (w.cache.find? account).isSome) := rfl

theorem whenDeleting_cached (account : Address) (f : Failure) :
    whenDeleting account true f = f := by
  cases f <;> rfl

/-- Of a key that was cached the answer is that of the keystore. -/
theorem delete_cached (store : Keystore σ) {w : Wallet σ}
    (cached : w.cache.find? account ≠ none) :
    (w.delete store account).1 = (store.delete w.records account.recordName).1 := by
  rw [delete_reply, Option.isSome_iff_ne_none.mpr cached]
  cases (store.delete w.records account.recordName).1 with
  | ok => rfl
  | error f => exact congrArg Except.error (whenDeleting_cached account f)

/-- A key that was not cached is called missing whatever the keystore says went wrong. -/
theorem delete_uncached (store : Keystore σ) {w : Wallet σ}
    (uncached : w.cache.find? account = none) {step reason : String}
    (refused : (store.delete w.records account.recordName).1 = .error (.keystore step reason)) :
    (w.delete store account).1 = .error (.keyNotFound account.text "delete") := by
  rw [delete_reply, uncached, refused]
  rfl

/-- To delete a key succeeds exactly if to delete its record does. -/
theorem delete_ok (store : Keystore σ) (w : Wallet σ) (account : Address) :
    (w.delete store account).1 = .ok () ↔
      (store.delete w.records account.recordName).1 = .ok () := by
  rw [delete_reply]
  cases (store.delete w.records account.recordName).1 with
  | ok => simp [Except.mapError]
  | error f => simp [Except.mapError]

theorem forgets (store : Keystore σ) (w : Wallet σ) (account : Address) :
    w.Forgets store account where
  forgotten := Cache.find?_erase_self w.cache account
  remembered _ differ := Cache.find?_erase_of_ne differ
  records := rfl
  deleted := delete_ok store w account
  passed_on := delete_cached store
  denied uncached _ _ refused := delete_uncached store uncached refused

end Wallet

namespace Repository

def Has (account : Address) : Repository σ → σ → Prop
  | .memory, records => records.lookup account.recordName ≠ none
  | .folder f, files => files.exists? (f.recordPath account) = true

def Stuck (account : Address) : Repository σ → σ → (reason : String) → Prop
  | .memory, _, _ => False
  | .folder f, files, reason =>
    (∃ place mode, files.find (f.recordPath account) = .ok (place, .folder mode)) ∧
      reason = Storage.Fault.isDirectory.message

/-- All but the record of an address is as before, other files and folders as well. -/
def Spares (account : Address) : Repository σ → σ → σ → Prop
  | .memory, records, records' =>
    ∀ name, name ≠ account.recordName → records'.lookup name = records.lookup name
  | .folder f, files, files' =>
    files'.working = files.working ∧ ∀ place, files.locate (f.recordPath account) ≠ .ok place →
      files'.entryAt? place = files.entryAt? place

/-- What a repository does and answers when it is asked to delete the record of an address. -/
inductive Removal (account : Address) (repository : Repository σ) (records : σ) :
    Except Failure Unit → σ → Prop where
  | removed {records' : σ} (had : repository.Has account records)
      (loose : ∀ reason, ¬ repository.Stuck account records reason)
      (gone : ¬ repository.Has account records')
      (spared : repository.Spares account records records') :
      Removal account repository records (.ok ()) records'
  | refused (reason : String)
      (why : ¬ repository.Has account records ∨ repository.Stuck account records reason) :
      Removal account repository records (.error (.keystore "delete" reason)) records

theorem spares_refl (repository : Repository σ) (records : σ) (account : Address) :
    repository.Spares account records records := by
  cases repository with
  | memory => exact fun _ _ => rfl
  | folder f => exact ⟨rfl, fun _ _ => rfl⟩

/-- In memory a record is removed if it is there. -/
theorem memory_removal (records : Records) (account : Address) :
    ∃ result records', Keystore.memory.delete records account.recordName = (result, records') ∧
      Removal account .memory records result records' := by
  cases kept : records.lookup account.recordName with
  | none =>
    have missing : ¬ Repository.memory.Has account records := fun had => had kept
    simp only [Keystore.memory, kept]
    exact ⟨_, _, rfl, .refused _ (.inl missing)⟩
  | some key =>
    refine ⟨.ok (), records.filter (·.1 ≠ account.recordName), ?_, .removed ?_ ?_ ?_ ?_⟩
    · simp only [Keystore.memory, kept]
    · simp [Has, kept]
    · exact fun _ stuck => stuck
    · exact fun has => has (lookup_filter_self records)
    · exact fun name differ => lookup_filter_ne differ records

section

open Storage (Files Place)

variable {folder : Folder} {files : Files} {place : Place}

theorem not_exists_erase {path : String} {mode : Nat} {content : Bytes}
    (found : files.find path = .ok (place, .file mode content)) (nonempty : place ≠ []) :
    (files.erase place).exists? path = false := by
  obtain ⟨leads, there⟩ := Files.find_eq_ok.mp found
  have kept : Files.KeepsFolders files (files.erase place) :=
    Files.keepsFolders_erase (by simp [there])
  refine Files.exists?_of_free (kept.locate leads) ?_
  rw [Files.entryAt?, if_neg nonempty]
  exact lookup_filter_self files.entries

theorem exists?_of_find {path : String} {found : Place × Storage.Entry}
    (finds : files.find path = .ok found) : files.exists? path = true := by
  rw [Files.exists?, finds]
  rfl

theorem not_exists?_of_find {path : String} {fault : Storage.Fault}
    (missing : files.find path = .error fault) : ¬ files.exists? path = true := by
  rw [Files.exists?, missing]
  exact Bool.false_ne_true

/-- In a folder a record is removed unless it is missing or cannot be removed. -/
theorem folder_removal (folder : Folder) (files : Files) (account : Address) :
    ∃ result files', folder.delete files account.recordName = (result, files') ∧
      Removal account (.folder folder) files result files' := by
  cases found : files.find (folder.recordPath account) with
  | error fault =>
    have missing : ¬ (Repository.folder folder).Has account files := not_exists?_of_find found
    have refused : files.remove (folder.recordPath account) = .error fault := by
      simp only [Files.remove, found, bind, Except.bind]
    simp only [Folder.delete, Folder.pathOf_record, refused]
    cases fault <;> exact ⟨_, _, rfl, .refused _ (.inl missing)⟩
  | ok what =>
    obtain ⟨place, entry⟩ := what
    cases entry with
    | folder mode =>
      have refused : files.remove (folder.recordPath account) = .error .isDirectory := by
        simp only [Files.remove, found, bind, Except.bind]
      have stuck : (Repository.folder folder).Stuck account files
          Storage.Fault.isDirectory.message := ⟨⟨place, mode, found⟩, rfl⟩
      simp only [Folder.delete, Folder.pathOf_record, refused]
      exact ⟨_, _, rfl, .refused _ (.inr stuck)⟩
    | file mode content =>
      obtain ⟨leads, there⟩ := Files.find_eq_ok.mp found
      obtain ⟨front, rfl⟩ := Files.name_of_locate_join
        (Folder.path_isName account.isName_recordName) leads
      simp only [Folder.delete, Folder.pathOf_record, Files.remove_eq found]
      refine ⟨_, _, rfl, .removed (exists?_of_find found) ?_ ?_ ⟨rfl, ?_⟩⟩
      · rintro reason ⟨⟨place, mode', found'⟩, -⟩
        rw [found] at found'
        cases found'
      · have gone := not_exists_erase found (by simp)
        simp [Has, gone]
      · intro place away
        refine Files.entryAt?_erase_of_ne ?_
        rintro rfl
        exact away leads

end

theorem removal (repository : Repository σ) (records : σ) (account : Address) :
    ∃ result records', repository.store.delete records account.recordName = (result, records') ∧
      repository.Removal account records result records' := by
  cases repository with
  | memory => exact memory_removal records account
  | folder f =>
    simp only [store, Folder.keystore_delete]
    exact folder_removal f records account

/-- What is answered when a key is deleted, and what has become of the records. -/
structure Answers (repository : Repository σ) (w : Wallet σ) (account : Address) : Prop where
  deleted : (w.delete repository.store account).1 = .ok () ↔
    repository.Has account w.records ∧ ∀ reason, ¬ repository.Stuck account w.records reason
  gone : (w.delete repository.store account).1 = .ok () →
    ¬ repository.Has account (w.delete repository.store account).2.records
  unchanged : (w.delete repository.store account).1 ≠ .ok () →
    (w.delete repository.store account).2.records = w.records
  spared : repository.Spares account w.records (w.delete repository.store account).2.records
  /-- Why it stays is told of a key that was cached. -/
  told : w.cache.find? account ≠ none → ∀ reason, repository.Stuck account w.records reason →
    (w.delete repository.store account).1 = .error (.keystore "delete" reason)
  /-- One that was not cached is called missing, though something may have its name. -/
  denied : (w.delete repository.store account).1 = .error (.keyNotFound account.text "delete") ↔
    w.cache.find? account = none ∧ (¬ repository.Has account w.records ∨
      ∃ reason, repository.Stuck account w.records reason)

theorem stuck_unique {repository : Repository σ} {records : σ} {reason reason' : String}
    (stuck : repository.Stuck account records reason)
    (stuck' : repository.Stuck account records reason') : reason' = reason := by
  cases repository with
  | memory => cases stuck
  | folder f => exact stuck'.2.trans stuck.2.symm

theorem Stuck.has {repository : Repository σ} {records : σ} {reason : String}
    (stuck : repository.Stuck account records reason) : repository.Has account records := by
  cases repository with
  | memory => cases stuck
  | folder f =>
    obtain ⟨⟨place, mode, found⟩, -⟩ := stuck
    exact exists?_of_find found

/-- Whatever comes of it, nothing is touched but the record. -/
theorem Removal.spares {repository : Repository σ} {records records' : σ}
    {result : Except Failure Unit}
    (removal : repository.Removal account records result records') :
    repository.Spares account records records' := by
  cases removal with
  | removed had loose gone spared => exact spared
  | refused reason why => exact spares_refl repository records account

/-- Where a record stays the keystore says so itself, and the wallet if it never saw the key. -/
theorem denied_of_refused {repository : Repository σ} {w : Wallet σ} {reason : String}
    (refused : (repository.store.delete w.records account.recordName).1 =
      .error (.keystore "delete" reason)) :
    (w.delete repository.store account).1 = .error (.keyNotFound account.text "delete") ↔
      w.cache.find? account = none := by
  constructor
  · intro said
    by_contra cached
    rw [Wallet.delete_cached _ cached, refused] at said
    cases said
  · exact fun uncached => Wallet.delete_uncached _ uncached refused

theorem answers (repository : Repository σ) (w : Wallet σ) (account : Address) :
    repository.Answers w account := by
  obtain ⟨result, records', run, removal⟩ := repository.removal w.records account
  have reply : (repository.store.delete w.records account.recordName).1 = result := by rw [run]
  have after : (w.delete repository.store account).2.records = records' :=
    congrArg Prod.snd run
  have ok := Wallet.delete_ok repository.store w account
  rw [reply] at ok
  have spared := removal.spares
  rw [← after] at spared
  cases removal with
  | removed had loose gone spared' =>
    refine ⟨by simp [ok, had, loose], ?_, ?_, spared, ?_, ?_⟩
    · exact fun _ => after ▸ gone
    · exact fun refused => absurd (ok.mpr rfl) refused
    · exact fun _ reason stuck => absurd stuck (loose reason)
    · rw [ok.mpr rfl]
      simp [had, loose]
  | refused reason why =>
    have kept : ¬ (repository.Has account w.records ∧
        ∀ reason, ¬ repository.Stuck account w.records reason) := by
      rintro ⟨had, loose⟩
      exact why.elim (fun missing => missing had) (loose reason)
    have refused : (w.delete repository.store account).1 ≠ .ok () := by simp [ok]
    refine ⟨by simp [refused, kept], ?_, fun _ => after, spared, ?_, ?_⟩
    · exact fun done => absurd done refused
    · intro cached reason' stuck
      rw [Wallet.delete_cached _ cached, reply]
      obtain missing | stuck' := why
      · exact absurd stuck.has missing
      · rw [stuck_unique stuck stuck']
    · rw [denied_of_refused reply]
      exact (and_iff_left (why.imp_right fun stuck => ⟨reason, stuck⟩)).symm

end Repository

/-- A key is forgotten and its record goes if it can. The key is called missing exactly if it was
not cached and its record stays, which may be since what has the name cannot be removed. -/
theorem deletion_denies_what_it_cannot_remove (w : Wallet σ) (account : Address) :
    (∀ store, w.Forgets store account) ∧
      ∀ repository : Repository σ, repository.Answers w account :=
  ⟨fun store => w.forgets store account, fun repository => repository.answers w account⟩

def filesInTheWay (account : Address) : Storage.Files :=
  ⟨[(["keys"], .folder 0o700), (["keys", account.recordName], .folder 0o755)], []⟩

/-- The folder that has the name of a record is there, and it cannot be removed. -/
theorem stuck_inTheWay (account : Address) : (Repository.folder ⟨"/keys", none⟩).Stuck account
    (filesInTheWay account) Storage.Fault.isDirectory.message := by
  have opens : Folder.Opens ⟨"/keys", none⟩ (filesInTheWay account) ["keys"] :=
    ⟨rfl, 0o700, rfl⟩
  have size := account.utf8ByteSize_recordName
  have path : "/keys".utf8ByteSize = 5 := rfl
  have longest : Storage.Files.maxPath = 4095 := rfl
  have admits : Folder.Admits ⟨"/keys", none⟩ account.recordName :=
    ⟨account.isName_recordName, by omega, by simp only [path, size, longest]; omega⟩
  have there : (filesInTheWay account).entryAt? ["keys", account.recordName] =
      some (.folder 0o755) := by
    simp [filesInTheWay, Storage.Files.entryAt?, List.lookup_cons]
  exact ⟨⟨_, _, Storage.Files.find_eq (opens.locate admits) there⟩, rfl⟩

/-- What has the name of its record is there, and yet the key is called missing. -/
theorem key_in_the_way_denied :
    let account : Address := ⟨0x7E5F4552091A69125d5DfCb7b8C2659029395Bdf⟩
    let repository := Repository.folder ⟨"/keys", none⟩
    let w := Wallet.ofRecords (filesInTheWay account)
    repository.Has account w.records ∧
      (w.delete repository.store account).1 = .error (.keyNotFound account.text "delete") := by
  intro account repository w
  have stuck : repository.Stuck account w.records Storage.Fault.isDirectory.message :=
    stuck_inTheWay account
  exact ⟨stuck.has, (repository.answers w account).denied.mpr ⟨rfl, .inr ⟨_, stuck⟩⟩⟩

end ProviderWallet
