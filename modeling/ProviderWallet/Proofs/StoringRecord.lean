import ProviderWallet.Proofs.ListedAccounts

namespace ProviderWallet

open Storage (Files Place Entry Fault)

namespace Storage.Files

theorem mem_inside {files : Files} {place : Place} {name : String} {entry : Entry} :
    (name, entry) ∈ files.inside place ↔ (place ++ [name], entry) ∈ files.entries := by
  rw [inside, List.mem_filterMap]
  constructor
  · rintro ⟨⟨last, entry'⟩, among, child⟩
    obtain ⟨name', named, same⟩ := Option.map_eq_some_iff.mp child
    obtain rfl := childOf?_eq_some.mp named
    cases same
    exact among
  · exact fun among => ⟨_, among, childEntry_child place name entry⟩

end Storage.Files

namespace Keystore

namespace Folder

open Storage.Path (IsName)
open Storage.Files (KeepsFolders)

variable {folder : Folder} {files files' : Files} {name : String} {fresh : Fresh} {key : KeyText}
  {breakdown : Option Breakdown} {place : Place}

def written (folder : Folder) (breakdown : Option Breakdown) (fresh : Fresh) (files : Files)
    (name : String) (key : KeyText) : Except Failure Unit :=
  (stage breakdown (folder.stagingPath name fresh)
    (Record.ofKey fresh folder.passphrase key).text files).1

theorem written_uncreated {fault : Fault} (breakdown : Option Breakdown) (key : KeyText)
    (failed : ∀ content, files.create (folder.stagingPath name fresh) 0o600 content =
      .error fault) :
    folder.written breakdown fresh files name key = .error (.keystore "put" fault.message) := by
  simp only [written, stage, failed]

theorem written_eq (h : folder.CanStage files name fresh place) (key : KeyText) :
    folder.written breakdown fresh files name key =
      match breakdown with
      | some (.create reason) | some (.write _ reason) => .error (.keystore "put" reason)
      | _ => .ok () := by
  rcases breakdown with _ | ⟨reason⟩ | ⟨n, reason⟩ | ⟨reason⟩ <;>
    simp only [written, stage, h.create_eq]

/-- What comes of storing a record, whether or not one of its steps breaks down. -/
structure AllOrNothing (folder : Folder) (breakdown : Option Breakdown) (fresh : Fresh)
    (files : Files) (name : String) (key : KeyText) (result : Except Failure Unit)
    (files' : Files) : Prop where
  nothing (f : Failure) (failed : result = .error f) : files' = files
  all (done : result = .ok ()) : ∃ place mode,
    files.walk (.ofText folder.path) = .ok place ∧
    files.entryAt? place = some (.folder mode) ∧ files.entryAt? (place ++ [name]) = none ∧
    files' = files.insert (place ++ [name]) (folder.entryOf fresh key) ∧
    folder.get files' name = .ok (some key)
  clean : files'.exists? (folder.stagingPath name fresh) = false
  done : result = .ok () ↔ breakdown = none ∧ isName name = true ∧
    folder.written breakdown fresh files name key = .ok () ∧
    files.exists? (Storage.Path.join folder.path name) = false
  taken (other : String) : result = .error (.alreadyExists other) ↔
    other = name ∧ isName name = true ∧
      folder.written breakdown fresh files name key = .ok () ∧
      files.exists? (Storage.Path.join folder.path name) = true

/-- Where the hidden file can be created, all of the record is stored or nothing. -/
theorem put_canStage (h : folder.CanStage files name fresh place) (isName : isName name = true)
    (breakdown : Option Breakdown) (key : KeyText) :
    folder.AllOrNothing breakdown fresh files name key
      (folder.put breakdown fresh files name key).1
      (folder.put breakdown fresh files name key).2 := by
  have exists_eq := h.exists?_eq isName
  rw [put_verdict h isName]
  dsimp only
  refine ⟨?_, ?_, ?_, ?_, ?_⟩
  · intro f failed
    rw [failed]
    rfl
  · intro done
    obtain ⟨-, free⟩ := verdict_eq_ok.mp done
    have vacant : files.entryAt? (place ++ [name]) = none := by simpa using free
    obtain ⟨mode, there⟩ := h.there
    rw [done]
    exact ⟨place, mode, h.leads, there, vacant, rfl, get_stored isName h vacant⟩
  · cases result : verdict breakdown name (files.entryAt? (place ++ [name])).isSome with
    | error f => exact h.unused
    | ok =>
      obtain ⟨-, free⟩ := verdict_eq_ok.mp result
      have vacant : files.entryAt? (place ++ [name]) = none := by simpa using free
      have kept : KeepsFolders files (files.insert (place ++ [name]) (folder.entryOf fresh key)) :=
        Files.keepsFolders_insert (by simp [vacant]) _
      have differ : place ++ [stagingName name fresh] ≠ place ++ [name] := by
        simpa using stagingName_ne name fresh isName
      change (files.insert (place ++ [name]) (folder.entryOf fresh key)).exists? _ = false
      refine Files.exists?_of_free (kept.locate h.goes) ?_
      rw [Files.entryAt?_insert_of_ne differ, h.free]
  · rw [verdict_eq_ok, exists_eq]
    constructor
    · rintro ⟨rfl, vacant⟩
      exact ⟨rfl, isName, written_eq h key, vacant⟩
    · rintro ⟨none, -, -, vacant⟩
      exact ⟨none, vacant⟩
  · intro other
    rw [exists_eq, written_eq h]
    rcases breakdown with _ | ⟨reason⟩ | ⟨n, reason⟩ | ⟨reason⟩ <;>
      cases (files.entryAt? (place ++ [name])).isSome <;> simp [verdict, isName, eq_comm]

/-- So it is wherever the hidden name is free. -/
theorem put_allOrNothing (unused : files.exists? (folder.stagingPath name fresh) = false)
    (breakdown : Option Breakdown) (key : KeyText) :
    folder.AllOrNothing breakdown fresh files name key
      (folder.put breakdown fresh files name key).1
      (folder.put breakdown fresh files name key).2 := by
  by_cases allowed : isName name = true
  · rcases folder.canStage_or_fault files fresh allowed with ⟨place, h⟩ | ⟨fault, failed⟩
    · exact put_canStage h allowed breakdown key
    · rw [put_uncreated allowed failed, discard_nothing unused]
      have unwritten := written_uncreated breakdown key failed
      exact ⟨fun _ _ => rfl, by simp, unused, by simp [unwritten], by simp [unwritten]⟩
  · have refused : isName name = false := by simpa using allowed
    rw [put_refused refused]
    exact ⟨fun _ _ => rfl, by simp, unused, by simp [refused], by simp [refused, invalidName]⟩

/-- Storing a record changes nothing but what has its name and its hidden name in the folder. -/
theorem put_away {other : Place}
    (away : ∀ place, files.walk (.ofText folder.path) = .ok place →
      other ≠ place ++ [name] ∧ other ≠ place ++ [stagingName name fresh])
    (breakdown : Option Breakdown) (key : KeyText) :
    (folder.put breakdown fresh files name key).2.entryAt? other = files.entryAt? other := by
  obtain ⟨result, files', run, course⟩ := folder.put_course breakdown fresh files name key
  rw [run]
  dsimp only
  cases course with
  | failed f => rfl
  | cleared f isName leads there => exact Files.entryAt?_erase_of_ne (away _ leads).2
  | stored isName stages vacant => exact Files.entryAt?_insert_of_ne (away _ stages.leads).1 _

/-- Deleting a record changes nothing but what has its name in the folder. -/
theorem delete_away {other : Place}
    (away : ∀ place, files.walk (.ofText folder.path) = .ok place → other ≠ place ++ [name]) :
    (folder.delete files name).2.entryAt? other = files.entryAt? other := by
  obtain ⟨result, files', run, course⟩ := folder.delete_course files name
  rw [run]
  dsimp only
  cases course with
  | failed f => rfl
  | deleted isName leads goes there => exact Files.entryAt?_erase_of_ne (away _ leads)

/-- Two file systems that differ in nothing that has one of certain names in a folder, nor in the
way there. -/
structure Alike (folder : Folder) (names : List String) (files files' : Files) : Prop where
  walk : files'.walk (.ofText folder.path) = files.walk (.ofText folder.path)
  there (place : Place) (leads : files.walk (.ofText folder.path) = .ok place) :
    files'.entryAt? place = files.entryAt? place
  inside (place : Place) (leads : files.walk (.ofText folder.path) = .ok place) (name : String)
    (among : name ∈ names) : files'.entryAt? (place ++ [name]) = files.entryAt? (place ++ [name])

namespace Alike

variable {names : List String}

theorem locate (h : folder.Alike names files files') (isName : IsName name) :
    files'.locate (Storage.Path.join folder.path name) =
      files.locate (Storage.Path.join folder.path name) := by
  have walks : files'.walk (.ofText (Storage.Path.join folder.path name)) =
      files.walk (.ofText (Storage.Path.join folder.path name)) := by
    rw [Files.walk_join files' _ isName, Files.walk_join files _ isName, h.walk]
    cases leads : files.walk (.ofText folder.path) with
    | error fault => rfl
    | ok place =>
      simp only [bind, Except.bind, Files.step, h.there place leads]
  rw [Files.locate, Files.locate, walks]

theorem entry (h : folder.Alike names files files') (isName : IsName name) (among : name ∈ names)
    (goes : files.locate (Storage.Path.join folder.path name) = .ok place) :
    files'.entryAt? place = files.entryAt? place := by
  obtain ⟨place, -, leads, -, rfl⟩ := Files.folder_of_locate_join isName goes
  exact h.inside place leads name among

theorem find (h : folder.Alike names files files') (isName : IsName name) (among : name ∈ names) :
    files'.find (Storage.Path.join folder.path name) =
      files.find (Storage.Path.join folder.path name) := by
  rw [Files.find, Files.find, h.locate isName]
  cases goes : files.locate (Storage.Path.join folder.path name) with
  | error fault => rfl
  | ok place =>
    simp only [bind, Except.bind, h.entry isName among goes]

theorem get_eq (h : folder.Alike names files files') (among : name ∈ names) :
    folder.get files' name = folder.get files name := by
  by_cases allowed : isName name = true
  · have found := h.find (path_isName allowed) among
    have reads : files'.readText (Storage.Path.join folder.path name) =
        files.readText (Storage.Path.join folder.path name) := by
      rw [Files.readText, Files.readText, Files.read, Files.read, found]
    rw [get, get, pathOf, if_pos allowed]
    simp only [bind, Except.bind, reads]
  · have refused : isName name = false := by simpa using allowed
    rw [get_refused refused, get_refused refused]

theorem delete_eq (h : folder.Alike names files files') (among : name ∈ names) :
    (folder.delete files' name).1 = (folder.delete files name).1 := by
  by_cases allowed : isName name = true
  · have found := h.find (path_isName allowed) among
    rw [delete, delete, pathOf, if_pos allowed]
    simp only [Files.remove, found]
    cases files.find (Storage.Path.join folder.path name) with
    | error fault => cases fault <;> rfl
    | ok found =>
      obtain ⟨place, entry⟩ := found
      cases entry <;> rfl
  · have refused : isName name = false := by simpa using allowed
    rw [delete_refused refused, delete_refused refused]

theorem canStage (h : folder.Alike names files files') (isName : Folder.isName name = true)
    (among : stagingName name fresh ∈ names) (stages : folder.CanStage files name fresh place) :
    folder.CanStage files' name fresh place where
  leads := h.walk.trans stages.leads
  there := by
    obtain ⟨mode, there⟩ := stages.there
    exact ⟨mode, (h.there place stages.leads).trans there⟩
  goes := (h.locate (stagingName_is isName fresh)).trans stages.goes
  free := (h.inside place stages.leads _ among).trans stages.free

theorem create_fault (h : folder.Alike names files files') (isName : Folder.isName name = true)
    (among : stagingName name fresh ∈ names) {fault : Fault} {content : Bytes}
    (failed : files.create (folder.stagingPath name fresh) 0o600 content = .error fault) :
    files'.create (folder.stagingPath name fresh) 0o600 content = .error fault := by
  have same := h.locate (stagingName_is isName fresh)
  rw [Files.create] at failed ⊢
  rw [stagingPath] at failed ⊢
  cases goes : files.locate (Storage.Path.join folder.path (stagingName name fresh)) with
  | error fault' =>
    rw [goes] at failed same
    rw [same]
    exact failed
  | ok hidden =>
    have there := h.entry (stagingName_is isName fresh) among goes
    rw [goes] at failed same
    rw [same]
    simp only [bind, Except.bind, there] at failed ⊢
    cases free : files.entryAt? hidden with
    | none =>
      rw [free] at failed
      cases failed
    | some old =>
      rw [free] at failed
      exact failed

theorem put_eq (h : folder.Alike names files files') (among : name ∈ names)
    (among' : stagingName name fresh ∈ names) (breakdown : Option Breakdown) (key : KeyText) :
    (folder.put breakdown fresh files' name key).1 =
      (folder.put breakdown fresh files name key).1 := by
  by_cases allowed : isName name = true
  · rcases folder.canStage_or_fault files fresh allowed with ⟨place, stages⟩ | ⟨fault, failed⟩
    · rw [put_verdict stages allowed, put_verdict (h.canStage allowed among' stages) allowed,
        h.inside place stages.leads name among]
    · rw [put_uncreated allowed failed,
        put_uncreated allowed fun content => h.create_fault allowed among' (failed content)]
  · have refused : isName name = false := by simpa using allowed
    rw [put_refused refused, put_refused refused]

end Alike

def NameLetter (c : Char) : Prop :=
  ('a' ≤ c ∧ c ≤ 'z') ∨ ('A' ≤ c ∧ c ≤ 'Z') ∨ ('0' ≤ c ∧ c ≤ '9') ∨ c = '-' ∨ c = '_'

theorem isNameChar_iff {c : Char} : isNameChar c = true ↔ NameLetter c := by
  have ranges : isNameChar c = ((decide (c.val ≥ 65 ∧ c.val ≤ 90) ||
      (c.val ≥ 97 && c.val ≤ 122)) || (c.val ≥ 48 && c.val ≤ 57) || c = '-' || c = '_') := rfl
  rw [ranges]
  simp only [Bool.or_eq_true, Bool.and_eq_true, decide_eq_true_eq, ge_iff_le]
  constructor
  · rintro ((((upper | lower) | digit) | dash) | line)
    · exact .inr (.inl upper)
    · exact .inl lower
    · exact .inr (.inr (.inl digit))
    · exact .inr (.inr (.inr (.inl dash)))
    · exact .inr (.inr (.inr (.inr line)))
  · rintro (lower | upper | digit | dash | line)
    · exact .inl (.inl (.inl (.inr lower)))
    · exact .inl (.inl (.inl (.inl upper)))
    · exact .inl (.inl (.inr digit))
    · exact .inl (.inr dash)
    · exact .inr line

theorem isName_iff : isName name = true ↔ name ≠ "" ∧ ∀ c ∈ name.toList, NameLetter c := by
  simp [isName, List.all_eq_true, isNameChar_iff]

theorem listed?_iff {entry : Entry} {shown : String} :
    listed? (name, entry) = some shown ↔
      name = shown ∧ isHidden shown = false ∧ ∃ mode content, entry = .file mode content := by
  cases entry with
  | folder mode => simp [listed?]
  | file mode content =>
    by_cases hidden : isHidden name = true
    · simp only [listed?, hidden, if_true]
      constructor
      · intro absurd
        cases absurd
      · rintro ⟨rfl, seen, -⟩
        rw [hidden] at seen
        cases seen
    · simp only [listed?, hidden, Bool.false_eq_true, if_false, Option.some.injEq]
      constructor
      · rintro rfl
        exact ⟨rfl, by simpa using hidden, mode, content, rfl⟩
      · exact fun shows => shows.1

/-- What is listed are the files in the folder that are not hidden. -/
theorem mem_list {names : List String} (listed : folder.list files = .ok names) :
    ∃ place, files.walk (.ofText folder.path) = .ok place ∧ ∀ shown, shown ∈ names ↔
      isHidden shown = false ∧
        ∃ mode content, (place ++ [shown], Entry.file mode content) ∈ files.entries := by
  obtain ⟨place, opens, rfl⟩ := opens_of_list listed
  refine ⟨place, (Files.locate_eq_ok.mp opens.leads).2.2.2, fun shown => ?_⟩
  rw [(sortNames_perm _).mem_iff, List.mem_filterMap]
  constructor
  · rintro ⟨⟨name, entry⟩, inside, shows⟩
    obtain ⟨rfl, seen, mode, content, rfl⟩ := listed?_iff.mp shows
    exact ⟨seen, mode, content, Files.mem_inside.mp inside⟩
  · rintro ⟨seen, mode, content, among⟩
    exact ⟨_, Files.mem_inside.mpr among, listed?_iff.mpr ⟨rfl, seen, mode, content, rfl⟩⟩

/-- A name leads nowhere but to what has it in the folder, and to the hidden file while a record is
stored. -/
structure Confined (folder : Folder) (name : String) : Prop where
  refused (odd : name = "" ∨ ∃ c ∈ name.toList, ¬ NameLetter c) (files : Files) :
    (∃ f, folder.get files name = .error f) ∧ (∃ f, folder.delete files name = (.error f, files)) ∧
      ∀ breakdown fresh key, ∃ f, folder.put breakdown fresh files name key = (.error f, files)
  leads (isName : isName name = true) : isHidden name = false ∧ ∀ (files : Files) (last : Place),
    files.locate (Storage.Path.join folder.path name) = .ok last →
      ∃ place, files.walk (.ofText folder.path) = .ok place ∧ last = place ++ [name]
  get_reads (files files' : Files) (alike : folder.Alike [name] files files') :
    folder.get files' name = folder.get files name
  delete_reads (files files' : Files) (alike : folder.Alike [name] files files') :
    (folder.delete files' name).1 = (folder.delete files name).1
  delete_changes (files : Files) (other : Place)
    (away : ∀ place, files.walk (.ofText folder.path) = .ok place → other ≠ place ++ [name]) :
    (folder.delete files name).2.entryAt? other = files.entryAt? other
  put_reads (files files' : Files) (fresh : Fresh)
    (alike : folder.Alike [name, stagingName name fresh] files files')
    (breakdown : Option Breakdown) (key : KeyText) :
    (folder.put breakdown fresh files' name key).1 = (folder.put breakdown fresh files name key).1
  put_changes (files : Files) (fresh : Fresh) (other : Place)
    (away : ∀ place, files.walk (.ofText folder.path) = .ok place →
      other ≠ place ++ [name] ∧ other ≠ place ++ [stagingName name fresh])
    (breakdown : Option Breakdown) (key : KeyText) :
    (folder.put breakdown fresh files name key).2.entryAt? other = files.entryAt? other

/-- No name leads anywhere else. -/
theorem confined (folder : Folder) (name : String) : folder.Confined name where
  refused odd files := by
    have refused : isName name = false := by
      rw [← Bool.not_eq_true, isName_iff]
      rintro ⟨nonempty, plain⟩
      rcases odd with empty | ⟨c, among, strange⟩
      · exact nonempty empty
      · exact strange (plain c among)
    exact ⟨⟨_, get_refused refused folder files⟩, ⟨_, delete_refused refused folder files⟩,
      fun breakdown fresh key => ⟨_, put_refused refused folder breakdown fresh files key⟩⟩
  leads isName := by
    refine ⟨isHidden_of_isName isName, fun files last goes => ?_⟩
    obtain ⟨place, -, leads, -, there⟩ := Files.folder_of_locate_join (path_isName isName) goes
    exact ⟨place, leads, there⟩
  get_reads files files' alike := alike.get_eq List.mem_cons_self
  delete_reads files files' alike := alike.delete_eq List.mem_cons_self
  delete_changes files other away := delete_away away
  put_reads files files' fresh alike breakdown key :=
    alike.put_eq (by simp) (by simp) breakdown key
  put_changes files fresh other away breakdown key := put_away away breakdown key

end Folder

/-- Storing a record is all or nothing, whichever step of it breaks down. No name leads out of the
folder, and hidden files that are left in it are not listed. -/
theorem put_all_or_nothing (folder : Folder) (name : String) :
    folder.Confined name ∧
    (∀ (files : Files) (fresh : Fresh),
      files.exists? (folder.stagingPath name fresh) = false →
        ∀ (breakdown : Option Breakdown) (key : KeyText), folder.AllOrNothing breakdown
          fresh files name key (folder.put breakdown fresh files name key).1
          (folder.put breakdown fresh files name key).2) ∧
    ∀ (files : Files) (names : List String), folder.list files = .ok names →
      (∀ fresh, Folder.stagingName name fresh ∉ names) ∧
      ∃ place, files.walk (.ofText folder.path) = .ok place ∧ ∀ shown, shown ∈ names ↔
        Folder.isHidden shown = false ∧
          ∃ mode content, (place ++ [shown], Entry.file mode content) ∈ files.entries := by
  refine ⟨folder.confined name, ?_, ?_⟩
  · intro files fresh unused breakdown key
    exact Folder.put_allOrNothing unused breakdown key
  · intro files names listed
    obtain ⟨place, leads, shows⟩ := Folder.mem_list listed
    refine ⟨?_, place, leads, shows⟩
    intro fresh among
    have seen := ((shows _).mp among).1
    rw [Folder.isHidden_stagingName] at seen
    cases seen

/-- With a folder and a file that was left over in the folder, a record is stored unless its text
does not fit, and none gets the name of the folder. -/
theorem stored_beside_left_over :
    let folder : Folder := ⟨"/keys", none⟩
    let fresh : Fresh := ⟨0, 0, 1⟩
    let files : Files := ⟨[(["keys"], .folder 0o700), (["keys", "sub"], .folder 0o755),
      (["keys", ".a.0000000000000000.tmp"], .file 0o600 [])], []⟩
    let full : Breakdown := .write 3 "No space left on device (os error 28)"
    files.exists? (folder.stagingPath "a" fresh) = false ∧
      (folder.put none fresh files "a" ⟨"ab"⟩).1 = .ok () ∧
      folder.get (folder.put none fresh files "a" ⟨"ab"⟩).2 "a" = .ok (some ⟨"ab"⟩) ∧
      (folder.put (some full) fresh files "a" ⟨"ab"⟩).2 = files ∧
      (folder.put none fresh files "sub" ⟨"ab"⟩).1 = .error (.alreadyExists "sub") := by
  intro folder fresh files full
  have unused : files.exists? (folder.stagingPath "a" fresh) = false := by decide +kernel
  have unused' : files.exists? (folder.stagingPath "sub" fresh) = false := by decide +kernel
  obtain ⟨-, course, -⟩ := put_all_or_nothing folder "a"
  obtain ⟨-, course', -⟩ := put_all_or_nothing folder "sub"
  have stores := course files fresh unused none ⟨"ab"⟩
  have breaks := course files fresh unused (some full) ⟨"ab"⟩
  have refuses := course' files fresh unused' none ⟨"ab"⟩
  have vacant : files.exists? (Storage.Path.join folder.path "a") = false := by decide +kernel
  have taken : files.exists? (Storage.Path.join folder.path "sub") = true := by decide +kernel
  have written : folder.written none fresh files "a" ⟨"ab"⟩ = .ok () := by decide +kernel
  have written' : folder.written none fresh files "sub" ⟨"ab"⟩ = .ok () := by decide +kernel
  have done := stores.done.mpr ⟨rfl, by decide, written, vacant⟩
  obtain ⟨place, mode, -, -, -, -, found⟩ := stores.all done
  refine ⟨unused, done, found, ?_, (refuses.taken "sub").mpr ⟨rfl, by decide, written', taken⟩⟩
  cases result : (folder.put (some full) fresh files "a" ⟨"ab"⟩).1 with
  | error f => exact breaks.nothing f result
  | ok => exact absurd (breaks.done.mp result).1 (by simp)

end Keystore

end ProviderWallet
