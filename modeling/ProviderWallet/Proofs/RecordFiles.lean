import Mathlib.Data.List.Forall2
import ProviderWallet.Proofs.FileChanges
import ProviderWallet.Proofs.KeptRecords
import ProviderWallet.Proofs.StoredRecord

namespace ProviderWallet.Keystore

namespace Folder

open Storage (Files Place Entry)
open Storage.Files (KeepsFolders)

@[simp] theorem keystore_get (folder : Folder) : folder.keystore.get = folder.get := rfl

@[simp] theorem keystore_put (folder : Folder) : folder.keystore.put = folder.put none := rfl

@[simp] theorem keystore_delete (folder : Folder) : folder.keystore.delete = folder.delete := rfl

@[simp] theorem keystore_list (folder : Folder) : folder.keystore.list = folder.list := rfl

structure Opens (folder : Folder) (files : Files) (place : Place) : Prop where
  leads : files.locate folder.path = .ok place
  there : ∃ mode, files.entryAt? place = some (.folder mode)

/-- A name is one of records, and it is short enough even when it is hidden. -/
structure Admits (folder : Folder) (name : String) : Prop where
  isName : isName name = true
  short : name.utf8ByteSize ≤ 233
  room : folder.path.utf8ByteSize + name.utf8ByteSize + 22 < Files.maxPath

def entryOf (folder : Folder) (fresh : Fresh) (key : KeyText) : Entry :=
  .file 0o600 (Bytes.ofText (Record.ofKey fresh folder.passphrase key).text)

def textOf (folder : Folder) (files : Files) (name : String) : Option String :=
  (files.readText (Storage.Path.join folder.path name)).toOption

variable {folder : Folder} {files files' : Files} {place : Place} {name : String}

namespace Opens

theorem keeps (h : folder.Opens files place) (kept : KeepsFolders files files') :
    folder.Opens files' place := by
  obtain ⟨leads, mode, there⟩ := h
  exact ⟨kept.locate leads, mode, kept.folder place mode there⟩

theorem locate (h : folder.Opens files place) (admits : folder.Admits name) :
    files.locate (Storage.Path.join folder.path name) = .ok (place ++ [name]) := by
  obtain ⟨leads, mode, there⟩ := h
  obtain ⟨isName, short, room⟩ := admits
  have names : Files.maxName = 255 := rfl
  exact Files.locate_join leads there (path_isName isName) (by omega) (by omega)

theorem locate_staging (h : folder.Opens files place) (admits : folder.Admits name)
    (fresh : Fresh) :
    files.locate (Storage.Path.join folder.path (stagingName name fresh)) =
      .ok (place ++ [stagingName name fresh]) := by
  obtain ⟨leads, mode, there⟩ := h
  obtain ⟨isName, short, room⟩ := admits
  have size := utf8ByteSize_stagingName isName fresh
  have names : Files.maxName = 255 := rfl
  exact Files.locate_join leads there (stagingName_is isName fresh) (by omega) (by omega)

end Opens

theorem pathOf_eq (admits : folder.Admits name) :
    folder.pathOf name = .ok (Storage.Path.join folder.path name) :=
  if_pos admits.isName

/-- A record is opened with the passphrase of whoever asks for it. -/
theorem get_found (isName : isName name = true)
    (goes : files.locate (Storage.Path.join folder.path name) = .ok place) {record : Record}
    (fits : record.Fits) {mode : Nat}
    (there : files.entryAt? place = some (.file mode (Bytes.ofText record.text))) :
    folder.get files name =
      ((record.unlock name folder.passphrase).mapError (.keystore "get")).map some := by
  have reads := Files.readText_eq (Files.find_eq goes there)
  rw [get, pathOf, if_pos isName]
  simp only [bind, Except.bind, reads, Record.read_text fits]
  cases record.unlock name folder.passphrase <;> rfl

/-- A record is opened, or it is said why it cannot be. -/
theorem get_record (h : folder.Opens files place) (admits : folder.Admits name) {record : Record}
    (fits : record.Fits) {mode : Nat}
    (there : (files.inside place).lookup name = some (.file mode (Bytes.ofText record.text))) :
    folder.get files name =
      ((record.unlock name folder.passphrase).mapError (.keystore "get")).map some := by
  rw [← Files.entryAt?_child] at there
  exact get_found admits.isName (h.locate admits) fits there

theorem get_eq (h : folder.Opens files place) (admits : folder.Admits name) {fresh : Fresh}
    {key : KeyText} (there : (files.inside place).lookup name = some (folder.entryOf fresh key)) :
    folder.get files name = .ok (some key) := by
  rw [get_record h admits (Record.fits_ofKey _ _ _) there, Record.unlock_ofKey]
  rfl

theorem get_missing (h : folder.Opens files place) (admits : folder.Admits name)
    (free : (files.inside place).lookup name = none) : folder.get files name = .ok none := by
  rw [← Files.entryAt?_child] at free
  have missing := Files.readText_missing (Files.find_missing (h.locate admits) free)
  rw [get, pathOf_eq admits]
  simp only [bind, Except.bind, missing]

theorem textOf_stored (h : folder.Opens files place) (admits : folder.Admits name) {fresh : Fresh}
    {key : KeyText} (there : (files.inside place).lookup name = some (folder.entryOf fresh key)) :
    folder.textOf files name = some (Record.ofKey fresh folder.passphrase key).text := by
  rw [← Files.entryAt?_child] at there
  rw [textOf, Files.readText_eq (Files.find_eq (h.locate admits) there)]
  rfl

theorem textOf_missing (h : folder.Opens files place) (admits : folder.Admits name)
    (free : (files.inside place).lookup name = none) : folder.textOf files name = none := by
  rw [← Files.entryAt?_child] at free
  rw [textOf, Files.readText_missing (Files.find_missing (h.locate admits) free)]
  rfl

/-- The text of a record is in the file of its name and nowhere else. -/
theorem textOf_congr (h : folder.Opens files place) (h' : folder.Opens files' place)
    (admits : folder.Admits name)
    (same : (files'.inside place).lookup name = (files.inside place).lookup name) :
    folder.textOf files' name = folder.textOf files name := by
  have found : files'.find (Storage.Path.join folder.path name) =
      files.find (Storage.Path.join folder.path name) := by
    rw [Files.find, Files.find, h.locate admits, h'.locate admits]
    simp only [bind, Except.bind, Files.entryAt?_child, same]
  rw [textOf, textOf, Files.readText, Files.readText, Files.read, Files.read, found]

/-- A key is found only by the name of something in the folder. -/
theorem lookup_of_get (h : folder.Opens files place) {key : KeyText}
    (found : folder.get files name = .ok (some key)) :
    ∃ entry, (files.inside place).lookup name = some entry := by
  rw [get, pathOf] at found
  by_cases allowed : isName name = true
  · rw [if_pos allowed] at found
    cases located : files.locate (Storage.Path.join folder.path name) with
    | error fault =>
      simp only [Files.readText, Files.read, Files.find, bind, Except.bind, located] at found
      cases fault <;> cases found
    | ok last =>
      have last_eq := Files.place_of_locate_join h.leads (path_isName allowed) located
      subst last_eq
      rw [← Option.ne_none_iff_exists', ← Files.entryAt?_child]
      intro free
      have unread := Files.readText_missing (Files.find_missing located free)
      simp only [bind, Except.bind, unread] at found
      cases found
  · rw [if_neg allowed] at found
    cases found

theorem inside_insert (free : (files.inside place).lookup name = none) (entry : Entry) :
    (files.insert (place ++ [name]) entry).inside place = (name, entry) :: files.inside place := by
  rw [Files.inside_insert, filter_of_lookup free]

theorem Opens.insert (h : folder.Opens files place)
    (free : (files.inside place).lookup name = none) (entry : Entry) :
    folder.Opens (files.insert (place ++ [name]) entry) place := by
  rw [← Files.entryAt?_child] at free
  exact h.keeps (Files.keepsFolders_insert (by simp [free]) entry)

/-- A file goes, and nothing else. -/
theorem delete_eq (h : folder.Opens files place) (admits : folder.Admits name) {mode : Nat}
    {content : Bytes} (there : (files.inside place).lookup name = some (.file mode content)) :
    ∃ files', folder.delete files name = (.ok (), files') ∧ folder.Opens files' place ∧
      files'.inside place = (files.inside place).filter (·.1 ≠ name) := by
  rw [← Files.entryAt?_child] at there
  have removed := Files.remove_eq (Files.find_eq (h.locate admits) there)
  refine ⟨files.erase (place ++ [name]), ?_, ?_, Files.inside_erase files place name⟩
  · rw [delete, pathOf_eq admits]
    simp only [removed]
  · refine h.keeps (Files.keepsFolders_erase ?_)
    intro mode other
    rw [there] at other
    cases other

theorem delete_missing_eq (h : folder.Opens files place) (admits : folder.Admits name)
    (free : (files.inside place).lookup name = none) :
    folder.delete files name =
      (.error (.keystore "delete" ("record " ++ name ++ " not found")), files) := by
  rw [← Files.entryAt?_child] at free
  have missing := Files.remove_missing (Files.find_missing (h.locate admits) free)
  rw [delete, pathOf_eq admits]
  simp only [missing]

def listed? (file : String × Entry) : Option String :=
  match file.2 with
  | .file .. => if isHidden file.1 then none else some file.1
  | .folder _ => none

theorem list_inside (h : folder.Opens files place) :
    folder.list files = .ok (sortNames ((files.inside place).filterMap listed?)) := by
  obtain ⟨leads, mode, there⟩ := h
  rw [list, Files.list_eq (Files.find_eq leads there)]
  refine congrArg Except.ok (sortNames_congr ?_)
  exact (List.mergeSort_perm ..).filterMap listed?

end Folder

end ProviderWallet.Keystore
