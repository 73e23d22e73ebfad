import Mathlib.Data.List.Forall2
import ProviderWallet.Proofs.RecordChanges

namespace ProviderWallet.Keystore

namespace Folder

open Storage (Files Place Entry)

def Written (folder : Folder) (file : String × Entry) (record : String × KeyText) : Prop :=
  file.1 = record.1 ∧ isName record.1 = true ∧ ∃ fresh, file.2 = folder.entryOf fresh record.2

/-- Directly in the folder are the given records and nothing else. -/
def Mirrors (folder : Folder) (files : Files) (records : Records) : Prop :=
  ∃ place, folder.Opens files place ∧ List.Forall₂ folder.Written (files.inside place) records

variable {folder : Folder} {files files' : Files} {place : Place} {name : String}
  {records : Records}

section written

variable {inside : List (String × Entry)}

/-- A key is in memory exactly if its record is in the folder. -/
theorem lookup_written (h : List.Forall₂ folder.Written inside records) (name : String) :
    (records.lookup name = none ∧ inside.lookup name = none) ∨
      ∃ key fresh, records.lookup name = some key ∧
        inside.lookup name = some (folder.entryOf fresh key) := by
  induction h with
  | nil => exact .inl ⟨rfl, rfl⟩
  | cons first rest ih =>
    rename_i file record files records
    obtain ⟨other, entry⟩ := file
    obtain ⟨other', key⟩ := record
    obtain ⟨rfl, -, fresh, rfl⟩ :
        other = other' ∧ isName other' = true ∧ ∃ fresh, entry = folder.entryOf fresh key := first
    by_cases same : name = other
    · subst same
      exact .inr ⟨key, fresh, List.lookup_cons_self, List.lookup_cons_self⟩
    · rw [List.lookup_cons, beq_false_of_ne same, List.lookup_cons, beq_false_of_ne same]
      exact ih

theorem filter_written (h : List.Forall₂ folder.Written inside records) (name : String) :
    List.Forall₂ folder.Written (inside.filter (·.1 ≠ name)) (records.filter (·.1 ≠ name)) := by
  induction h with
  | nil => exact .nil
  | cons first rest ih =>
    rename_i file record files records
    have named : file.1 = record.1 := first.1
    by_cases same : record.1 = name
    · rw [List.filter_cons_of_neg (by simp [named, same]), List.filter_cons_of_neg (by simp [same])]
      exact ih
    · rw [List.filter_cons_of_pos (by simp [named, same]), List.filter_cons_of_pos (by simp [same])]
      exact .cons first ih

theorem listed_written (h : List.Forall₂ folder.Written inside records) :
    inside.filterMap listed? = records.map Prod.fst := by
  induction h with
  | nil => rfl
  | cons first rest ih =>
    rename_i file record files records
    obtain ⟨named, isName, fresh, shown⟩ := first
    have listed : listed? file = some record.1 := by
      rw [listed?, shown, named, entryOf, isHidden_of_isName isName]
      rfl
    rw [List.filterMap_cons_some listed, ih, List.map_cons]

/-- Whoever stores a record finds its hidden name free. -/
theorem hidden_unwritten (h : List.Forall₂ folder.Written inside records) (name : String)
    (fresh : Fresh) : inside.lookup (stagingName name fresh) = none := by
  induction h with
  | nil => rfl
  | cons first rest ih =>
    rename_i file record files records
    obtain ⟨other, entry⟩ := file
    obtain ⟨rfl, isName, -⟩ : other = record.1 ∧ isName record.1 = true ∧ _ := first
    rw [List.lookup_cons, beq_false_of_ne (stagingName_ne name fresh isName)]
    exact ih

end written

/-- What fails changes nothing, and what does not changes no record but the one of a name. -/
structure Changes (folder : Folder) (name : String) (files : Files)
    (result : Except Failure Unit) (files' : Files) : Prop where
  others : ∀ other, folder.Admits other → other ≠ name →
    folder.textOf files' other = folder.textOf files other
  failed : ∀ f, result = .error f → files' = files

theorem Changes.nothing (folder : Folder) (name : String) (files : Files)
    (result : Except Failure Unit) : folder.Changes name files result files :=
  ⟨fun _ _ _ => rfl, fun _ _ => rfl⟩

/-- A record is found in the folder as in memory. -/
theorem get_mirrors (h : folder.Mirrors files records) (admits : folder.Admits name) :
    folder.get files name = memory.get records name := by
  obtain ⟨place, opens, written⟩ := h
  change _ = Except.ok (records.lookup name)
  rcases lookup_written written name with ⟨missing, free⟩ | ⟨key, fresh, found, there⟩
  · rw [get_missing opens admits free, missing]
  · rw [get_eq opens admits there, found]

theorem textOf_eq_none (h : folder.Mirrors files records) (admits : folder.Admits name) :
    folder.textOf files name = none ↔ records.lookup name = none := by
  obtain ⟨place, opens, written⟩ := h
  rcases lookup_written written name with ⟨missing, free⟩ | ⟨key, fresh, found, there⟩
  · simp [textOf_missing opens admits free, missing]
  · simp [textOf_stored opens admits there, found]

/-- Nothing is found but by the name of a record. -/
theorem lookup_of_found (h : folder.Mirrors files records) {key : KeyText}
    (found : folder.get files name = .ok (some key)) :
    ∃ key, records.lookup name = some key := by
  obtain ⟨place, opens, written⟩ := h
  obtain ⟨entry, there⟩ := lookup_of_get opens found
  rcases lookup_written written name with ⟨-, free⟩ | ⟨key, fresh, found, -⟩
  · rw [free] at there
    cases there
  · exact ⟨key, found⟩

/-- A record is stored as it is in memory, or refused as it is there. -/
theorem put_mirrors (h : folder.Mirrors files records) (admits : folder.Admits name)
    (fresh : Fresh) (key : KeyText) :
    ∃ files', folder.put none fresh files name key =
        ((memory.put fresh records name key).1, files') ∧
      folder.Mirrors files' (memory.put fresh records name key).2 ∧
      Changes folder name files (memory.put fresh records name key).1 files' := by
  have mirrors := h
  obtain ⟨place, opens, written⟩ := h
  have hidden := hidden_unwritten written name fresh
  rcases lookup_written written name with ⟨missing, free⟩ | ⟨old, fresh', found, there⟩
  · have opens' := opens.insert free (folder.entryOf fresh key)
    have inside := inside_insert free (folder.entryOf fresh key)
    simp only [memory, missing]
    refine ⟨_, put_free opens admits hidden free key, ⟨place, opens', ?_⟩, ?_⟩
    · rw [inside]
      exact .cons ⟨rfl, admits.isName, fresh, rfl⟩ written
    · refine ⟨?_, ?_⟩
      · intro other admits' differ
        apply textOf_congr opens opens' admits'
        rw [inside, List.lookup_cons, beq_false_of_ne differ]
      · intro f failed
        cases failed
  · simp only [memory, found]
    exact ⟨files, put_taken opens admits hidden there key, mirrors, .nothing ..⟩

/-- It is deleted as it is there. -/
theorem delete_mirrors (h : folder.Mirrors files records) (admits : folder.Admits name) :
    ∃ files', folder.delete files name = ((memory.delete records name).1, files') ∧
      folder.Mirrors files' (memory.delete records name).2 ∧
      Changes folder name files (memory.delete records name).1 files' := by
  have mirrors := h
  obtain ⟨place, opens, written⟩ := h
  rcases lookup_written written name with ⟨missing, free⟩ | ⟨old, fresh, found, there⟩
  · simp only [memory, missing]
    exact ⟨files, delete_missing_eq opens admits free, mirrors, .nothing ..⟩
  · obtain ⟨files', deleted, opens', inside⟩ := delete_eq opens admits there
    simp only [memory, found]
    refine ⟨files', deleted, ⟨place, opens', ?_⟩, ?_⟩
    · rw [inside]
      exact filter_written written name
    · refine ⟨?_, ?_⟩
      · intro other admits' differ
        apply textOf_congr opens opens' admits'
        rw [inside, lookup_filter_ne differ]
      · intro f failed
        cases failed

/-- The same names are listed. -/
theorem list_mirrors (h : folder.Mirrors files records) :
    folder.list files = memory.list records := by
  obtain ⟨place, opens, written⟩ := h
  rw [list_inside opens, listed_written written]
  rfl

/-- A folder with nothing in it has no records. -/
theorem mirrors_nothing (opens : folder.Opens files place)
    (empty : ∀ name, files.entryAt? (place ++ [name]) = none) : folder.Mirrors files [] := by
  have nothing : files.inside place = [] := by
    rw [List.eq_nil_iff_forall_not_mem]
    rintro ⟨name, entry⟩ among
    have missing := empty name
    rw [Files.entryAt?_child, List.lookup_eq_none_iff] at missing
    simpa using missing _ among
  refine ⟨place, opens, ?_⟩
  rw [nothing]
  exact .nil

/-- The path of a folder leads to it and leaves room for the names of files. -/
structure Reaches (folder : Folder) (files : Files) (place : Place) : Prop where
  leads : files.locate folder.path = .ok place
  there : ∃ mode, files.entryAt? place = some (.folder mode)
  room : folder.path.utf8ByteSize + 71 < Files.maxPath

def Stored (folder : Folder) (file : String × Entry) (record : Address × KeyText) : Prop :=
  file.1 = record.1.recordName ∧ ∃ fresh, file.2 = folder.entryOf fresh record.2

def Holds (folder : Folder) (files : Files) (held : Cache) : Prop :=
  ∃ place, folder.Reaches files place ∧ List.Forall₂ folder.Stored (files.inside place) held

variable {held : Cache}

theorem stored_iff {inside : List (String × Entry)} :
    List.Forall₂ folder.Stored inside held ↔
      List.Forall₂ folder.Written inside (recordsOf held) := by
  have same : folder.Stored = fun file record =>
      folder.Written file (record.1.recordName, record.2) := by
    funext file record
    simp [Stored, Written, record.1.isName_recordName]
  rw [recordsOf, List.forall₂_map_right_iff, same]

theorem holds_iff : folder.Holds files held ↔
    folder.path.utf8ByteSize + 71 < Files.maxPath ∧ folder.Mirrors files (recordsOf held) := by
  constructor
  · rintro ⟨place, ⟨leads, there, room⟩, stored⟩
    exact ⟨room, place, ⟨leads, there⟩, stored_iff.mp stored⟩
  · rintro ⟨room, place, ⟨leads, there⟩, written⟩
    exact ⟨place, ⟨leads, there, room⟩, stored_iff.mpr written⟩

theorem admits_record (room : folder.path.utf8ByteSize + 71 < Files.maxPath)
    (account : Address) : folder.Admits account.recordName := by
  have size := account.utf8ByteSize_recordName
  exact ⟨account.isName_recordName, by omega, by omega⟩

theorem Changes.othersKept {result : Except Failure Unit} {account : Address}
    (room : folder.path.utf8ByteSize + 71 < Files.maxPath)
    (changes : folder.Changes account.recordName files result files') :
    OthersKept folder.textOf account files files' := by
  intro other differ
  apply changes.others other.recordName (admits_record room other)
  exact fun same => differ (Address.recordName_injective same)

/-- A folder of its own keeps records as memory does. -/
theorem keystore_keeps (folder : Folder) : folder.keystore.Keeps folder.textOf folder.Holds where
  get := by
    intro files held h account
    obtain ⟨room, mirrors⟩ := holds_iff.mp h
    rw [keystore_get, get_mirrors mirrors (admits_record room account)]
    exact memory_keeps.get rfl account
  named := by
    intro files held h name key found
    rw [keystore_get] at found
    obtain ⟨room, mirrors⟩ := holds_iff.mp h
    obtain ⟨key', there⟩ := lookup_of_found mirrors found
    exact memory_keeps.named rfl (congrArg Except.ok there)
  text_none := by
    intro files held h account
    obtain ⟨room, mirrors⟩ := holds_iff.mp h
    rw [textOf_eq_none mirrors (admits_record room account), lookup_recordsOf]
  put_free := by
    intro files held h account free fresh key
    obtain ⟨room, mirrors⟩ := holds_iff.mp h
    obtain ⟨records, put, shown, -⟩ := memory_keeps.put_free rfl free fresh key
    obtain ⟨files', done, mirrors', changes⟩ :=
      put_mirrors mirrors (admits_record room account) fresh key
    rw [put] at done mirrors' changes
    subst shown
    rw [keystore_put]
    exact ⟨files', done, holds_iff.mpr ⟨room, mirrors'⟩, changes.othersKept room⟩
  put_taken := by
    intro files held h account old taken fresh key
    obtain ⟨room, mirrors⟩ := holds_iff.mp h
    have refused := memory_keeps.put_taken rfl taken fresh key
    obtain ⟨files', done, -, changes⟩ :=
      put_mirrors mirrors (admits_record room account) fresh key
    rw [refused] at done changes
    rw [keystore_put, done, changes.failed _ rfl]
  delete_found := by
    intro files held h account old found
    obtain ⟨room, mirrors⟩ := holds_iff.mp h
    obtain ⟨records, deleted, shown, -⟩ := memory_keeps.delete_found rfl found
    obtain ⟨files', done, mirrors', changes⟩ :=
      delete_mirrors mirrors (admits_record room account)
    rw [deleted] at done mirrors' changes
    subst shown
    rw [keystore_delete]
    exact ⟨files', done, holds_iff.mpr ⟨room, mirrors'⟩, changes.othersKept room⟩
  delete_missing := by
    intro files held h account missing
    obtain ⟨room, mirrors⟩ := holds_iff.mp h
    obtain ⟨reason, refused⟩ := memory_keeps.delete_missing rfl missing
    obtain ⟨files', done, -, changes⟩ := delete_mirrors mirrors (admits_record room account)
    rw [refused] at done changes
    rw [keystore_delete, done, changes.failed _ rfl]
    exact ⟨reason, rfl⟩
  list := by
    intro files held h
    obtain ⟨room, mirrors⟩ := holds_iff.mp h
    rw [keystore_list, list_mirrors mirrors]
    exact memory_keeps.list rfl

theorem holds_nothing (reaches : folder.Reaches files place)
    (empty : ∀ name, files.entryAt? (place ++ [name]) = none) : folder.Holds files [] := by
  obtain ⟨leads, there, room⟩ := reaches
  exact holds_iff.mpr ⟨room, mirrors_nothing ⟨leads, there⟩ empty⟩

end Folder

end ProviderWallet.Keystore
