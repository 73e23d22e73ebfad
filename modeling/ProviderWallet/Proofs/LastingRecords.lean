import ProviderWallet.Proofs.RecordChanges

namespace ProviderWallet

namespace Keystore

variable {σ : Type}

/-- Whatever the records are like, a key that is found for an address stays until its record is
deleted. -/
structure Lasting (store : Keystore σ) : Prop where
  stored {fresh : Fresh} {s s' : σ} {account : Address} {key : KeyText}
    (put : store.put fresh s account.recordName key = (.ok (), s')) :
    store.get s' account.recordName = .ok (some key)
  kept_put (fresh : Fresh) {s : σ} (other : Address) (key : KeyText) {account : Address}
    {old : KeyText} (found : store.get s account.recordName = .ok (some old)) :
    store.get (store.put fresh s other.recordName key).2 account.recordName = .ok (some old)
  kept_delete {s : σ} {other account : Address} (differ : account ≠ other) {old : KeyText}
    (found : store.get s account.recordName = .ok (some old)) :
    store.get (store.delete s other.recordName).2 account.recordName = .ok (some old)
  deleted {s : σ} {account : Address} {old : KeyText}
    (found : store.get s account.recordName = .ok (some old)) :
    (store.delete s account.recordName).1 = .ok ()

/-- Any records in memory last. -/
theorem memory_lasting : memory.Lasting where
  stored := by
    intro fresh records records' account key put
    cases found : records.lookup account.recordName with
    | some old =>
      simp only [memory, found] at put
      cases put
    | none =>
      simp only [memory, found] at put
      cases put
      simp [memory]
  kept_put := by
    intro fresh records other key account old found
    have there : records.lookup account.recordName = some old := Except.ok.inj found
    cases taken : records.lookup other.recordName with
    | some key' =>
      simp only [memory, taken]
      exact found
    | none =>
      have differ : account.recordName ≠ other.recordName := by
        intro same
        rw [← same, there] at taken
        cases taken
      simp only [memory, taken, List.lookup_cons, beq_false_of_ne differ, there]
  kept_delete := by
    intro records other account differ old found
    have there : records.lookup account.recordName = some old := Except.ok.inj found
    have differ' : account.recordName ≠ other.recordName := by
      intro same
      exact differ (Address.recordName_injective same)
    cases taken : records.lookup other.recordName with
    | none =>
      simp only [memory, taken]
      exact found
    | some key =>
      simp only [memory, taken, lookup_filter_ne differ', there]
  deleted := by
    intro records account old found
    have there : records.lookup account.recordName = some old := Except.ok.inj found
    simp only [memory, there]

namespace Folder

open Storage (Files)
open Storage.Files (KeepsFile)

variable {folder : Folder} {files files' : Files} {account : Address}

def recordPath (folder : Folder) (account : Address) : String :=
  Storage.Path.join folder.path account.recordName

theorem pathOf_record (folder : Folder) (account : Address) :
    folder.pathOf account.recordName = .ok (folder.recordPath account) :=
  if_pos account.isName_recordName

/-- A key is found only where a file can be read. -/
theorem read_of_get {key : KeyText}
    (found : folder.get files account.recordName = .ok (some key)) :
    ∃ text, files.readText (folder.recordPath account) = .ok text := by
  cases read : files.readText (folder.recordPath account) with
  | ok text => exact ⟨text, rfl⟩
  | error fault =>
    simp only [get, pathOf_record, bind, Except.bind, read] at found
    cases fault <;> cases found

theorem get_kept {key : KeyText} (kept : KeepsFile (folder.recordPath account) files files')
    (found : folder.get files account.recordName = .ok (some key)) :
    folder.get files' account.recordName = .ok (some key) := by
  obtain ⟨text, reads⟩ := read_of_get found
  have reads' := kept.readText reads
  simp only [get, pathOf_record, bind, Except.bind, reads] at found
  simp only [get, pathOf_record, bind, Except.bind, reads', found]

/-- No record that is there is touched when a key is stored. -/
theorem keepsFile_put (folder : Folder) (files : Files) (account other : Address) (fresh : Fresh)
    (key : KeyText) : KeepsFile (folder.recordPath account) files
      (folder.put none fresh files other.recordName key).2 := by
  obtain ⟨result, files', run, course⟩ := folder.put_course none fresh files other.recordName key
  rw [run]
  dsimp only
  cases course with
  | failed f => exact .refl _ _
  | cleared f isName leads there =>
    -- The hidden files of records are away from records.
    have differ := stagingName_ne other.recordName fresh account.isName_recordName
    exact Storage.Files.keepsFile_erase there
      (Storage.Files.locate_join_ne (path_isName account.isName_recordName) differ _)
  | stored isName stages vacant => exact Storage.Files.keepsFile_insert vacant _

theorem keepsFile_delete (folder : Folder) (files : Files) {account other : Address}
    (differ : account ≠ other) : KeepsFile (folder.recordPath account) files
      (folder.delete files other.recordName).2 := by
  obtain ⟨result, files', run, course⟩ := folder.delete_course files other.recordName
  rw [run]
  dsimp only
  cases course with
  | failed f => exact .refl _ _
  | deleted isName leads goes there =>
    have differ' : other.recordName ≠ account.recordName := by
      intro same
      exact differ (Address.recordName_injective same.symm)
    exact Storage.Files.keepsFile_erase there
      (Storage.Files.locate_join_ne (path_isName account.isName_recordName) differ' _)

/-- Records in a folder last, whatever else is there. -/
theorem keystore_lasting (folder : Folder) : folder.keystore.Lasting where
  stored := by
    intro fresh files files' account key done
    rw [keystore_put] at done
    rw [keystore_get]
    obtain ⟨result, written, run, course⟩ :=
      folder.put_course none fresh files account.recordName key
    obtain ⟨rfl, rfl⟩ := Prod.mk.inj (done.symm.trans run)
    cases course with
    | stored isName stages vacant => exact get_stored isName stages vacant
  kept_put := by
    intro fresh files other key account old found
    rw [keystore_get] at found ⊢
    rw [keystore_put]
    apply get_kept _ found
    exact keepsFile_put folder files account other fresh key
  kept_delete := by
    intro files other account differ old found
    rw [keystore_get] at found ⊢
    rw [keystore_delete]
    apply get_kept _ found
    exact keepsFile_delete folder files differ
  deleted := by
    intro files account old found
    rw [keystore_get] at found
    obtain ⟨text, reads⟩ := read_of_get found
    obtain ⟨place, mode, content, there, -⟩ := Storage.Files.readText_ok reads
    have removed := Storage.Files.remove_eq there
    rw [keystore_delete]
    simp only [delete, pathOf_record, removed]

end Folder

end Keystore

end ProviderWallet
