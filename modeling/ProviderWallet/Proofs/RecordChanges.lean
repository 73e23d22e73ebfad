import ProviderWallet.Proofs.RecordFiles

namespace ProviderWallet.Keystore.Folder

open Storage (Files Place Entry Fault)
open Storage.Files (KeepsFolders)

/-- The path of the hidden file of a record. -/
def stagingPath (folder : Folder) (name : String) (fresh : Fresh) : String :=
  Storage.Path.join folder.path (stagingName name fresh)

def verdict (breakdown : Option Breakdown) (name : String) (taken : Bool) : Except Failure Unit :=
  match breakdown with
  | some (.create reason) | some (.write _ reason) => .error (.keystore "put" reason)
  | some (.link reason) => .error (if taken then .alreadyExists name else .keystore "put" reason)
  | none => if taken then .error (.alreadyExists name) else .ok ()

theorem verdict_eq_ok {breakdown : Option Breakdown} {name : String} {taken : Bool} :
    verdict breakdown name taken = .ok () ↔ breakdown = none ∧ taken = false := by
  rcases breakdown with _ | ⟨reason⟩ | ⟨n, reason⟩ | ⟨reason⟩ <;> cases taken <;> simp [verdict]

variable {folder : Folder} {files files' : Files} {place hidden : Place} {name : String}
  {fresh : Fresh} {key : KeyText} {breakdown : Option Breakdown}

theorem discard_nothing {path : String} (absent : files.exists? path = false) :
    discard path files = files := by
  rw [discard]
  cases removed : files.remove path with
  | error fault => rfl
  | ok files' =>
    obtain ⟨last, mode, content, found, -⟩ := Files.remove_ok removed
    rw [Files.exists?, found] at absent
    cases absent

/-- To write the hidden file and to discard it again changes nothing. -/
theorem discard_written {path : String} (leads : files.locate path = .ok hidden)
    (free : files.entryAt? hidden = none) (content : Bytes) :
    discard path (files.insert hidden (.file 0o600 content)) = files := by
  have found := Files.find_insert leads free (.file 0o600 content)
  rw [discard, Files.remove_eq found]
  exact Files.erase_insert (Files.ne_root_of_free free) free _

/-- What was written under one name and has a second one now keeps this. -/
theorem discard_linked {path : String} (leads : files.locate path = .ok hidden)
    (free : files.entryAt? hidden = none) (differ : place ≠ hidden)
    (vacant : files.entryAt? place = none) (content : Bytes) :
    discard path ((files.insert hidden (.file 0o600 content)).insert place
      (.file 0o600 content)) = files.insert place (.file 0o600 content) := by
  have written := Files.find_insert leads free (.file 0o600 content)
  rw [← Files.entryAt?_insert_of_ne differ (.file 0o600 content)] at vacant
  have found := Files.keepsFile_insert vacant (.file 0o600 content) _ _ _ written
  rw [discard, Files.remove_eq found]
  exact Files.erase_insert_insert (Files.ne_root_of_free free) free differ _ _

section

variable {staging path : String} (goes : files.locate staging = .ok hidden)
  (free : files.entryAt? hidden = none) (differ : place ≠ hidden)
  (goes' : files.locate path = .ok place)

include goes free differ goes'

/-- A file that has been written cannot have a name that something has. -/
theorem publish_taken {old : Entry} (taken : files.entryAt? place = some old)
    (breakdown : Option Breakdown) (name : String) (entry : Entry) :
    publish breakdown name staging path (files.insert hidden entry) =
      (.error (.alreadyExists name), files.insert hidden entry) := by
  have kept : KeepsFolders files (files.insert hidden entry) :=
    Files.keepsFolders_insert (by simp [free]) entry
  rw [← Files.entryAt?_insert_of_ne differ entry] at taken
  have refused := Files.link_taken (Files.find_insert goes free entry) (kept.locate goes') taken
  rw [publish, refused]

/-- It can have another one, unless that breaks down. -/
theorem publish_free (vacant : files.entryAt? place = none) (breakdown : Option Breakdown)
    (name : String) (entry : Entry) :
    publish breakdown name staging path (files.insert hidden entry) =
      match breakdown with
      | some (.link reason) => (.error (.keystore "put" reason), files.insert hidden entry)
      | _ => (.ok (), (files.insert hidden entry).insert place entry) := by
  have kept : KeepsFolders files (files.insert hidden entry) :=
    Files.keepsFolders_insert (by simp [free]) entry
  rw [← Files.entryAt?_insert_of_ne differ entry] at vacant
  have linked := Files.link_eq (Files.find_insert goes free entry) (kept.locate goes') vacant
  rcases breakdown with _ | ⟨reason⟩ | ⟨n, reason⟩ | ⟨reason⟩ <;> simp only [publish, linked]

end

def invalidName (name : String) : Failure :=
  .keystore "lookup" ("invalid record name " ++ Text.Quoted.quote name)

theorem pathOf_refused (refused : isName name = false) (folder : Folder) :
    folder.pathOf name = .error (invalidName name) :=
  if_neg (by simp [refused])

theorem get_refused (refused : isName name = false) (folder : Folder) (files : Files) :
    folder.get files name = .error (invalidName name) := by
  rw [get, pathOf_refused refused]
  rfl

theorem delete_refused (refused : isName name = false) (folder : Folder) (files : Files) :
    folder.delete files name = (.error (invalidName name), files) := by
  rw [delete, pathOf_refused refused]

/-- A name that no record can have is refused before anything is written. -/
theorem put_refused (refused : isName name = false) (folder : Folder)
    (breakdown : Option Breakdown) (fresh : Fresh) (files : Files) (key : KeyText) :
    folder.put breakdown fresh files name key = (.error (invalidName name), files) := by
  rw [put, pathOf_refused refused]

/-- Where its hidden file cannot be created a record is not stored. -/
theorem put_uncreated {fault : Fault} (isName : isName name = true)
    (failed : ∀ content, files.create (folder.stagingPath name fresh) 0o600 content =
      .error fault) (breakdown : Option Breakdown) (key : KeyText) :
    folder.put breakdown fresh files name key =
      (.error (.keystore "put" fault.message),
        discard (folder.stagingPath name fresh) files) := by
  have allowed : folder.pathOf name = .ok (Storage.Path.join folder.path name) := if_pos isName
  unfold stagingPath at failed ⊢
  rw [put, allowed]
  simp only [stage, failed]

structure CanStage (folder : Folder) (files : Files) (name : String) (fresh : Fresh)
    (place : Place) : Prop where
  leads : files.walk (.ofText folder.path) = .ok place
  there : ∃ mode, files.entryAt? place = some (.folder mode)
  goes : files.locate (folder.stagingPath name fresh) = .ok (place ++ [stagingName name fresh])
  free : files.entryAt? (place ++ [stagingName name fresh]) = none

namespace CanStage

theorem create_eq (h : folder.CanStage files name fresh place) (content : Bytes) :
    files.create (folder.stagingPath name fresh) 0o600 content =
      .ok (files.insert (place ++ [stagingName name fresh]) (.file 0o600 content)) :=
  Files.create_eq h.goes h.free 0o600 content

theorem unused (h : folder.CanStage files name fresh place) :
    files.exists? (folder.stagingPath name fresh) = false :=
  Files.exists?_of_free h.goes h.free

/-- The name of a record is not longer than that of its hidden file. -/
theorem locate (h : folder.CanStage files name fresh place) (isName : isName name = true) :
    files.locate (Storage.Path.join folder.path name) = .ok (place ++ [name]) :=
  Files.locate_sibling (stagingName_is isName fresh) (path_isName isName)
    (by rw [utf8ByteSize_stagingName isName]; omega) h.leads h.goes

/-- The hidden name is longer, and a file can have it. -/
theorem short (h : folder.CanStage files name fresh place) (isName : isName name = true) :
    name.utf8ByteSize ≤ 233 := by
  obtain ⟨-, -, -, walks⟩ := Files.locate_eq_ok.mp h.goes
  rw [stagingPath, Files.walk_join_of_ok h.leads (stagingName_is isName fresh)] at walks
  have short := Files.short_of_step_down walks
  have size := utf8ByteSize_stagingName isName fresh
  have names : Files.maxName = 255 := rfl
  omega

theorem exists?_eq (h : folder.CanStage files name fresh place) (isName : isName name = true) :
    files.exists? (Storage.Path.join folder.path name) =
      (files.entryAt? (place ++ [name])).isSome := by
  cases taken : files.entryAt? (place ++ [name]) with
  | none => exact Files.exists?_of_free (h.locate isName) taken
  | some entry =>
    rw [Files.exists?, Files.find_eq (h.locate isName) taken]
    rfl

end CanStage

/-- Either the hidden file of a record can be created in the folder, or nothing can be. -/
theorem canStage_or_fault (folder : Folder) (files : Files) (fresh : Fresh)
    (isName : isName name = true) :
    (∃ place, folder.CanStage files name fresh place) ∨
      ∃ fault, ∀ content,
        files.create (folder.stagingPath name fresh) 0o600 content = .error fault := by
  cases goes : files.locate (folder.stagingPath name fresh) with
  | error fault =>
    refine .inr ⟨fault, fun content => ?_⟩
    simp [Files.create, bind, Except.bind, goes]
  | ok hidden =>
    obtain ⟨place, mode, leads, there, rfl⟩ :=
      Files.folder_of_locate_join (stagingName_is isName fresh) goes
    cases free : files.entryAt? (place ++ [stagingName name fresh]) with
    | none => exact .inl ⟨place, leads, ⟨mode, there⟩, goes, free⟩
    | some old =>
      refine .inr ⟨.alreadyExists, fun content => ?_⟩
      simp [Files.create, bind, Except.bind, goes, free]

/-- Where the hidden file of a record can be created, it is there for a while only. -/
theorem put_verdict (h : folder.CanStage files name fresh place) (isName : isName name = true)
    (breakdown : Option Breakdown) (key : KeyText) :
    folder.put breakdown fresh files name key =
      let result := verdict breakdown name (files.entryAt? (place ++ [name])).isSome
      (result, if result.isOk then files.insert (place ++ [name]) (folder.entryOf fresh key)
        else files) := by
  have created := h.create_eq
  have goes := h.goes
  have goes' := h.locate isName
  have free := h.free
  have discarded := discard_written goes free
  have allowed : folder.pathOf name = .ok (Storage.Path.join folder.path name) := if_pos isName
  have differ : place ++ [name] ≠ place ++ [stagingName name fresh] := by
    simpa using (stagingName_ne name fresh isName).symm
  unfold stagingPath at goes created discarded
  rw [put, allowed]
  dsimp only
  cases taken : files.entryAt? (place ++ [name]) with
  | some old =>
    have refused := publish_taken goes free differ goes' taken
    rcases breakdown with _ | ⟨reason⟩ | ⟨n, reason⟩ | ⟨reason⟩
    · simp only [stage, created, refused, discarded]
      rfl
    · simp only [stage, created, discard_nothing (Files.exists?_of_free goes free)]
      rfl
    · simp only [stage, created, discarded]
      rfl
    · simp only [stage, created, refused, discarded]
      rfl
  | none =>
    have given := publish_free goes free differ goes' taken
    rcases breakdown with _ | ⟨reason⟩ | ⟨n, reason⟩ | ⟨reason⟩
    · simp only [stage, created, given, discard_linked goes free differ taken]
      rfl
    · simp only [stage, created, discard_nothing (Files.exists?_of_free goes free)]
      rfl
    · simp only [stage, created, discarded]
      rfl
    · simp only [stage, created, given, discarded]
      rfl

inductive PutCourse (folder : Folder) (files : Files) (fresh : Fresh) (name : String)
    (key : KeyText) : Except Failure Unit → Files → Prop where
  | failed (f : Failure) : PutCourse folder files fresh name key (.error f) files
  /-- A file had the hidden name, and it is gone. -/
  | cleared (f : Failure) {place : Place} {mode : Nat} {content : Bytes}
      (isName : isName name = true) (leads : files.walk (.ofText folder.path) = .ok place)
      (there : files.entryAt? (place ++ [stagingName name fresh]) = some (.file mode content)) :
      PutCourse folder files fresh name key (.error f)
        (files.erase (place ++ [stagingName name fresh]))
  | stored {place : Place} (isName : isName name = true)
      (stages : folder.CanStage files name fresh place)
      (vacant : files.entryAt? (place ++ [name]) = none) :
      PutCourse folder files fresh name key (.ok ())
        (files.insert (place ++ [name]) (folder.entryOf fresh key))

/-- To store a record takes one of its courses, whatever the files are like. -/
theorem put_course (folder : Folder) (breakdown : Option Breakdown) (fresh : Fresh) (files : Files)
    (name : String) (key : KeyText) :
    ∃ result files', folder.put breakdown fresh files name key = (result, files') ∧
      folder.PutCourse files fresh name key result files' := by
  by_cases allowed : isName name = true
  · rcases folder.canStage_or_fault files fresh allowed with ⟨place, stages⟩ | ⟨fault, failed⟩
    · have ends := put_verdict stages allowed breakdown key
      cases result : verdict breakdown name (files.entryAt? (place ++ [name])).isSome with
      | error f =>
        rw [result] at ends
        exact ⟨.error f, files, ends, .failed f⟩
      | ok =>
        obtain ⟨-, vacant⟩ := verdict_eq_ok.mp result
        rw [result] at ends
        exact ⟨.ok (), _, ends, .stored allowed stages (by simpa using vacant)⟩
    · have ends := put_uncreated allowed failed breakdown key
      rw [discard] at ends
      cases removed : files.remove (folder.stagingPath name fresh) with
      | error fault' =>
        rw [removed] at ends
        exact ⟨_, files, ends, .failed _⟩
      | ok files' =>
        obtain ⟨last, mode, content, found, rfl⟩ := Files.remove_ok removed
        obtain ⟨goes, there⟩ := Files.find_eq_ok.mp found
        obtain ⟨place, -, leads, -, rfl⟩ :=
          Files.folder_of_locate_join (stagingName_is allowed fresh) goes
        rw [removed] at ends
        exact ⟨_, _, ends, .cleared _ allowed leads there⟩
  · have refused : isName name = false := by simpa using allowed
    exact ⟨_, files, put_refused refused .., .failed _⟩

/-- A record that has been stored is read back. -/
theorem get_stored (isName : isName name = true) (stages : folder.CanStage files name fresh place)
    (vacant : files.entryAt? (place ++ [name]) = none) :
    folder.get (files.insert (place ++ [name]) (folder.entryOf fresh key)) name =
      .ok (some key) := by
  have stored := Files.find_insert (stages.locate isName) vacant (folder.entryOf fresh key)
  obtain ⟨goes, there⟩ := Files.find_eq_ok.mp stored
  rw [get_found isName goes (Record.fits_ofKey _ _ _) there, Record.unlock_ofKey]
  rfl

inductive DeleteCourse (folder : Folder) (files : Files) (name : String) :
    Except Failure Unit → Files → Prop where
  | failed (f : Failure) : DeleteCourse folder files name (.error f) files
  | deleted {place : Place} {mode : Nat} {content : Bytes} (isName : isName name = true)
      (leads : files.walk (.ofText folder.path) = .ok place)
      (goes : files.locate (Storage.Path.join folder.path name) = .ok (place ++ [name]))
      (there : files.entryAt? (place ++ [name]) = some (.file mode content)) :
      DeleteCourse folder files name (.ok ()) (files.erase (place ++ [name]))

/-- To delete a record takes one of its courses as well. -/
theorem delete_course (folder : Folder) (files : Files) (name : String) :
    ∃ result files', folder.delete files name = (result, files') ∧
      folder.DeleteCourse files name result files' := by
  by_cases allowed : isName name = true
  · have path : folder.pathOf name = .ok (Storage.Path.join folder.path name) := if_pos allowed
    cases removed : files.remove (Storage.Path.join folder.path name) with
    | error fault =>
      simp only [delete, path, removed]
      cases fault <;> exact ⟨_, _, rfl, .failed _⟩
    | ok files' =>
      simp only [delete, path, removed]
      obtain ⟨last, mode, content, found, rfl⟩ := Files.remove_ok removed
      obtain ⟨goes, there⟩ := Files.find_eq_ok.mp found
      obtain ⟨place, -, leads, -, rfl⟩ := Files.folder_of_locate_join (path_isName allowed) goes
      exact ⟨_, _, rfl, .deleted allowed leads goes there⟩
  · have refused : isName name = false := by simpa using allowed
    exact ⟨_, files, delete_refused refused .., .failed _⟩

theorem Opens.canStage (h : folder.Opens files place) (admits : folder.Admits name)
    (free : (files.inside place).lookup (stagingName name fresh) = none) :
    folder.CanStage files name fresh place where
  leads := (Files.locate_eq_ok.mp h.leads).2.2.2
  there := h.there
  goes := h.locate_staging admits fresh
  free := (Files.entryAt?_child ..).trans free

/-- A record is never overwritten. -/
theorem put_taken (h : folder.Opens files place) (admits : folder.Admits name)
    (hidden : (files.inside place).lookup (stagingName name fresh) = none) {entry : Entry}
    (taken : (files.inside place).lookup name = some entry) (key : KeyText) :
    folder.put none fresh files name key = (.error (.alreadyExists name), files) := by
  rw [put_verdict (h.canStage admits hidden) admits.isName, Files.entryAt?_child, taken]
  rfl

/-- A record that is stored is there, and nothing else has changed. -/
theorem put_free (h : folder.Opens files place) (admits : folder.Admits name)
    (hidden : (files.inside place).lookup (stagingName name fresh) = none)
    (free : (files.inside place).lookup name = none) (key : KeyText) :
    folder.put none fresh files name key =
      (.ok (), files.insert (place ++ [name]) (folder.entryOf fresh key)) := by
  rw [put_verdict (h.canStage admits hidden) admits.isName, Files.entryAt?_child, free]
  rfl

end ProviderWallet.Keystore.Folder
