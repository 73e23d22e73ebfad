import Mathlib.Logic.Function.Basic
import ProviderWallet.Proofs.FolderAsMemory
import ProviderWallet.Proofs.LastingRecords

namespace ProviderWallet

namespace Storage.Files

variable {files files' files'' : Files} {folder : Place} {spared : String → Prop}

theorem KeepsFolders.refl (files : Files) : KeepsFolders files files :=
  ⟨fun _ _ there => there, rfl⟩

theorem KeepsFolders.trans (h : KeepsFolders files files') (h' : KeepsFolders files' files'') :
    KeepsFolders files files'' :=
  ⟨fun place mode there => h'.folder place mode (h.folder place mode there),
    h'.working.trans h.working⟩

structure Spares (folder : Place) (spared : String → Prop) (files files' : Files) : Prop where
  folders : KeepsFolders files files'
  entry : ∀ name, spared name →
    files'.entryAt? (folder ++ [name]) = files.entryAt? (folder ++ [name])

namespace Spares

theorem refl (folder : Place) (spared : String → Prop) (files : Files) :
    Spares folder spared files files :=
  ⟨.refl files, fun _ _ => rfl⟩

/-- A new file has its own name. -/
theorem insert {name : String} (free : files.entryAt? (folder ++ [name]) = none)
    (other : ¬ spared name) (entry : Entry) :
    Spares folder spared files (files.insert (folder ++ [name]) entry) := by
  refine ⟨keepsFolders_insert (by simp [free]) entry, ?_⟩
  intro name' among
  have differ : name' ≠ name := by
    rintro rfl
    exact other among
  exact entryAt?_insert_of_ne (by simpa using differ) entry

theorem erase {name : String} {mode : Nat} {content : Bytes}
    (there : files.entryAt? (folder ++ [name]) = some (.file mode content))
    (other : ¬ spared name) : Spares folder spared files (files.erase (folder ++ [name])) := by
  refine ⟨keepsFolders_erase (by simp [there]), ?_⟩
  intro name' among
  have differ : name' ≠ name := by
    rintro rfl
    exact other among
  exact entryAt?_erase_of_ne (by simpa using differ)

end Spares

end Storage.Files

namespace Keystore

open Storage (Files Place Entry)
open Storage.Files (KeepsFolders Spares)

namespace Folder

variable {folder : Folder} {files files' : Files} {place : Place} {name : String} {fresh : Fresh}
  {key : KeyText}

structure HandleOf (folder : Folder) (files : Files) (place : Place) : Prop
    extends folder.Opens files place where
  room : folder.path.utf8ByteSize + 255 < Files.maxPath

theorem HandleOf.keeps_on (h : folder.HandleOf files place) (kept : KeepsFolders files files') :
    folder.HandleOf files' place :=
  ⟨h.toOpens.keeps kept, h.room⟩

/-- The records that an attempt to store or delete one leaves alone: the others, and all of them if
it fails. -/
def Apart (name : String) (result : Except Failure Unit) (other : String) : Prop :=
  isName other = true ∧ (other = name → result ≠ .ok ())

/-- A handle opens the folder that its path leads to. -/
theorem Opens.eq_of_walk {other : Place} (opens : folder.Opens files place)
    (leads : files.walk (.ofText folder.path) = .ok other) : other = place :=
  Except.ok.inj (leads.symm.trans (Files.locate_eq_ok.mp opens.leads).2.2.2)

/-- To store a record leaves all other records alone, and all of them if it fails. -/
theorem put_spares (opens : folder.Opens files place) (fresh : Fresh) (name : String)
    (key : KeyText) :
    Spares place (Apart name (folder.put none fresh files name key).1) files
      (folder.put none fresh files name key).2 := by
  obtain ⟨result, files', run, course⟩ := folder.put_course none fresh files name key
  rw [run]
  dsimp only
  cases course with
  | failed f => exact .refl ..
  | cleared f isName leads there =>
    obtain rfl := opens.eq_of_walk leads
    exact .erase there fun apart => stagingName_ne name fresh apart.1 rfl
  | stored isName stages vacant =>
    obtain rfl := opens.eq_of_walk stages.leads
    exact .insert vacant (fun apart => apart.2 rfl rfl) _

/-- What stands under the name of a record once it is stored. -/
theorem put_written (opens : folder.Opens files place)
    (done : (folder.put none fresh files name key).1 = .ok ()) :
    isName name = true ∧ name.utf8ByteSize ≤ 233 ∧
      (folder.put none fresh files name key).2.entryAt? (place ++ [name]) =
        some (folder.entryOf fresh key) := by
  obtain ⟨result, files', run, course⟩ := folder.put_course none fresh files name key
  rw [run] at done ⊢
  obtain rfl : result = .ok () := done
  cases course with
  | stored isName stages vacant =>
    obtain rfl := opens.eq_of_walk stages.leads
    exact ⟨isName, stages.short isName, Files.entryAt?_insert_self (by simp) _⟩

/-- To delete a record leaves all others alone, and all of them if it fails. -/
theorem delete_spares (opens : folder.Opens files place) (name : String) :
    Spares place (Apart name (folder.delete files name).1) files (folder.delete files name).2 := by
  obtain ⟨result, files', run, course⟩ := folder.delete_course files name
  rw [run]
  dsimp only
  cases course with
  | failed f => exact .refl ..
  | deleted isName leads goes there =>
    obtain rfl := opens.eq_of_walk leads
    exact .erase there fun apart => apart.2 rfl rfl

/-- A handle reads what another has written as far as its passphrase goes. -/
theorem get_written (h : folder.HandleOf files place) (allowed : isName name = true)
    (short : name.utf8ByteSize ≤ 233) {writer : Folder}
    (there : files.entryAt? (place ++ [name]) = some (writer.entryOf fresh key)) :
    folder.get files name =
      (((Record.ofKey fresh writer.passphrase key).unlock name folder.passphrase).mapError
        (.keystore "get")).map some := by
  have room := h.room
  have admits : folder.Admits name := ⟨allowed, short, by omega⟩
  rw [Files.entryAt?_child] at there
  exact get_record h.toOpens admits (Record.fits_ofKey _ _ _) there

end Folder

namespace RecordTask

def isWrite : RecordTask → Bool
  | put .. | delete _ => true
  | get _ | list => false

end RecordTask

/-- By the name of each record the handle that stored it, and its key. -/
abbrev Origins := String → Option (Folder × KeyText)

def Origins.after (origins : Origins) (handle : Folder) :
    RecordTask → Except Failure RecordReply → Origins
  | .put _ name key, .ok _ => Function.update origins name (some (handle, key))
  | .delete name, .ok _ => Function.update origins name none
  | _, _ => origins

structure Shared where
  files : Files
  origins : Origins

namespace Shared

def start (files : Files) : Shared :=
  ⟨files, fun _ => none⟩

def perform (s : Shared) (handle : Folder) (task : RecordTask) : Shared :=
  let (reply, files) := task.run handle.keystore s.files
  ⟨files, s.origins.after handle task reply⟩

theorem perform_stored {s : Shared} {handle : Folder} {fresh : Fresh} {name : String}
    {key : KeyText}
    {files : Files} (put : handle.put none fresh s.files name key = (.ok (), files)) :
    s.perform handle (.put fresh name key) =
      ⟨files, Function.update s.origins name (some (handle, key))⟩ := by
  simp only [perform, RecordTask.run, Folder.keystore_put, put]
  rfl

def after (s : Shared) (tasks : List (Folder × RecordTask)) : Shared :=
  tasks.foldl (fun s (handle, task) => s.perform handle task) s

theorem after_cons (s : Shared) (handle : Folder) (task : RecordTask)
    (tasks : List (Folder × RecordTask)) :
    s.after ((handle, task) :: tasks) = (s.perform handle task).after tasks := rfl

theorem perform_read (s : Shared) {task : RecordTask} (reads : task.isWrite = false)
    (handle : Folder) : s.perform handle task = s := by
  cases task with
  | get name => rfl
  | list => rfl
  | put fresh name key => cases reads
  | delete name => cases reads

theorem perform_get (s : Shared) (handle : Folder) (name : String) :
    s.perform handle (.get name) = s :=
  s.perform_read rfl handle

/-- Under the name of each record of known origin stands what its handle wrote. -/
structure Tracks (start : Files) (place : Place) (s : Shared) : Prop where
  folders : KeepsFolders start s.files
  written : ∀ name writer key, s.origins name = some (writer, key) →
    Folder.isName name = true ∧ name.utf8ByteSize ≤ 233 ∧
      ∃ fresh, s.files.entryAt? (place ++ [name]) = some (writer.entryOf fresh key)

namespace Tracks

variable {files : Files} {place : Place} {s : Shared} {handle : Folder}

theorem start (files : Files) (place : Place) : (Shared.start files).Tracks files place :=
  ⟨.refl files, fun _ _ _ known => nomatch known⟩

/-- Records that a task leaves alone stay as they were written. -/
theorem of_spares (h : s.Tracks files place) {name : String} {result : Except Failure Unit}
    {files' : Files} {origins : Origins}
    (spares : Spares place (Folder.Apart name result) s.files files')
    (known : ∀ other writer key, origins other = some (writer, key) →
      (s.origins other = some (writer, key) ∧ (other = name → result ≠ .ok ())) ∨
        (Folder.isName other = true ∧ other.utf8ByteSize ≤ 233 ∧
          ∃ fresh, files'.entryAt? (place ++ [other]) = some (writer.entryOf fresh key))) :
    Tracks files place ⟨files', origins⟩ := by
  refine ⟨h.folders.trans spares.folders, ?_⟩
  intro other writer key here
  rcases known other writer key here with ⟨before, left⟩ | written
  · obtain ⟨allowed, short, fresh, there⟩ := h.written other writer key before
    refine ⟨allowed, short, fresh, ?_⟩
    rw [spares.entry other ⟨allowed, left⟩, there]
  · exact written

theorem put (h : s.Tracks files place) (opens : handle.Opens s.files place) (fresh : Fresh)
    (name : String) (key : KeyText) :
    (s.perform handle (.put fresh name key)).Tracks files place := by
  refine h.of_spares (Folder.put_spares opens fresh name key) ?_
  intro other writer key' known
  simp only [Folder.keystore_put] at known
  cases result : (handle.put none fresh s.files name key).1 with
  | error f =>
    simp only [result, Except.map, Origins.after] at known
    exact .inl ⟨known, by simp⟩
  | ok =>
    simp only [result, Except.map, Origins.after] at known
    by_cases same : other = name
    · subst same
      rw [Function.update_self] at known
      cases known
      obtain ⟨allowed, short, there⟩ := Folder.put_written opens result
      exact .inr ⟨allowed, short, fresh, there⟩
    · rw [Function.update_of_ne same] at known
      exact .inl ⟨known, fun same' => absurd same' same⟩

theorem delete (h : s.Tracks files place) (opens : handle.Opens s.files place) (name : String) :
    (s.perform handle (.delete name)).Tracks files place := by
  refine h.of_spares (Folder.delete_spares opens name) ?_
  intro other writer key known
  simp only [Folder.keystore_delete] at known
  cases result : (handle.delete s.files name).1 with
  | error f =>
    simp only [result, Except.map, Origins.after] at known
    exact .inl ⟨known, by simp⟩
  | ok =>
    simp only [result, Except.map, Origins.after] at known
    by_cases same : other = name
    · subst same
      rw [Function.update_self] at known
      cases known
    · rw [Function.update_of_ne same] at known
      exact .inl ⟨known, fun same' => absurd same' same⟩

/-- One task, through any handle. -/
theorem perform (h : s.Tracks files place) (opens : handle.Opens files place)
    (task : RecordTask) : (s.perform handle task).Tracks files place := by
  have opens' := opens.keeps h.folders
  cases task with
  | get name => exact h
  | put fresh name key => exact h.put opens' fresh name key
  | delete name => exact h.delete opens' name
  | list => exact h

/-- Any number of tasks, through any handles. -/
theorem after (h : s.Tracks files place) {tasks : List (Folder × RecordTask)}
    (handles : ∀ task ∈ tasks, task.1.HandleOf files place) :
    (s.after tasks).Tracks files place := by
  induction tasks generalizing s with
  | nil => exact h
  | cons first tasks ih =>
    have opens := handles first List.mem_cons_self
    exact ih (h.perform opens.toOpens first.2) fun task later =>
      handles task (List.mem_cons_of_mem _ later)

end Tracks

/-- Tasks that only read might as well not have been done. -/
theorem after_writes (s : Shared) (tasks : List (Folder × RecordTask)) :
    s.after (tasks.filter (·.2.isWrite)) = s.after tasks := by
  induction tasks generalizing s with
  | nil => rfl
  | cons first tasks ih =>
    obtain ⟨handle, task⟩ := first
    rw [List.filter_cons, after_cons]
    cases writes : task.isWrite with
    | true => rw [if_pos rfl, after_cons, ih]
    | false => rw [if_neg Bool.false_ne_true, s.perform_read writes, ih]

end Shared

def noPassphrase (name : String) : Failure :=
  .keystore "get" ("record " ++ name ++ " is sealed and no passphrase is configured")

/-- Whatever else is done through the handles of a folder, a record is read by every handle if it
was stored without a passphrase, and by those with the same passphrase if it was stored with one. A
handle without a passphrase is told that it needs one. No record that is there counts as missing,
and reading changes nothing. -/
theorem read_across_handles (files : Files) (place : Place) (tasks : List (Folder × RecordTask))
    (handles : ∀ task ∈ tasks, task.1.HandleOf files place) :
    let s := (Shared.start files).after tasks
    (∀ name writer key, s.origins name = some (writer, key) →
      ∀ reader : Folder, reader.HandleOf files place →
        (writer.passphrase = none ∨ reader.passphrase = writer.passphrase →
          reader.get s.files name = .ok (some key)) ∧
        (writer.passphrase ≠ none → reader.passphrase = none →
          reader.get s.files name = .error (noPassphrase name)) ∧
        reader.get s.files name ≠ .ok none) ∧
    (Shared.start files).after (tasks.filter (·.2.isWrite)) = s := by
  intro s
  have tracks : s.Tracks files place := (Shared.Tracks.start files place).after handles
  refine ⟨?_, (Shared.start files).after_writes tasks⟩
  intro name writer key known reader handle
  obtain ⟨allowed, short, fresh, there⟩ := tracks.written name writer key known
  rw [Folder.get_written (handle.keeps_on tracks.folders) allowed short there]
  refine ⟨?_, ?_, ?_⟩
  · rintro (plain | same)
    · rw [plain]
      rfl
    · rw [same, Record.unlock_ofKey]
      rfl
  · intro isSealed without
    obtain ⟨passphrase, given⟩ := Option.ne_none_iff_exists'.mp isSealed
    rw [given, without]
    rfl
  · cases (Record.ofKey fresh writer.passphrase key).unlock name reader.passphrase with
    | error reason => exact fun absurd => nomatch absurd
    | ok key' => exact fun absurd => nomatch absurd

/-- One record that was stored without a passphrase and one that was stored with one, both read
through a handle with that passphrase, and then through one that has none. -/
theorem plain_and_sealed_read :
    let files := Files.withFolder ["keys"]
    let plain : Folder := ⟨"/keys", none⟩
    let closed : Folder := ⟨"/keys", some "secret"⟩
    let tasks : List (Folder × RecordTask) :=
      [(plain, .put ⟨0, 0, 0⟩ "a" ⟨"0x01"⟩), (closed, .get "a"),
        (closed, .put ⟨1, 1, 0⟩ "b" ⟨"π"⟩), (plain, .get "b")]
    let s := (Shared.start files).after tasks
    (∀ task ∈ tasks, task.1.HandleOf files ["keys"]) ∧
      closed.get s.files "a" = .ok (some ⟨"0x01"⟩) ∧ closed.get s.files "b" = .ok (some ⟨"π"⟩) ∧
      plain.get s.files "a" = .ok (some ⟨"0x01"⟩) ∧
      plain.get s.files "b" = .error (noPassphrase "b") := by
  intro files plain closed tasks s
  have opens : plain.Opens files ["keys"] := ⟨by decide +kernel, ⟨0o755, rfl⟩⟩
  have handle (passphrase : Option String) :
      Folder.HandleOf ⟨"/keys", passphrase⟩ files ["keys"] :=
    ⟨⟨opens.leads, opens.there⟩, (by decide : "/keys".utf8ByteSize + 255 < Files.maxPath)⟩
  have handles : ∀ task ∈ tasks, task.1.HandleOf files ["keys"] := by
    simp [tasks, plain, closed, handle]
  have admits (folder : Folder) (path : folder.path = "/keys") {name : String}
      (known : name = "a" ∨ name = "b") : folder.Admits name := by
    refine ⟨?_, ?_, ?_⟩
    · rcases known with rfl | rfl <;> decide
    · rcases known with rfl | rfl <;> decide
    · rcases known with rfl | rfl <;> (rw [path]; decide)
  -- Both records are stored, so that it is known who stored them.
  have hidden₀ : (files.inside ["keys"]).lookup (Folder.stagingName "a" ⟨0, 0, 0⟩) = none := rfl
  have free₀ : (files.inside ["keys"]).lookup "a" = none := rfl
  have put₁ := Folder.put_free opens (admits plain rfl (.inl rfl)) hidden₀ free₀ ⟨"0x01"⟩
  have opens₁ := opens.insert free₀ (plain.entryOf ⟨0, 0, 0⟩ ⟨"0x01"⟩)
  have inside₁ := Folder.inside_insert free₀ (plain.entryOf ⟨0, 0, 0⟩ ⟨"0x01"⟩)
  generalize files.insert (["keys"] ++ ["a"]) (plain.entryOf ⟨0, 0, 0⟩ ⟨"0x01"⟩) = files₁
    at put₁ opens₁ inside₁
  have hidden₁ : (files₁.inside ["keys"]).lookup (Folder.stagingName "b" ⟨1, 1, 0⟩) = none := by
    rw [inside₁, List.lookup_cons, beq_false_of_ne (Folder.stagingName_ne "b" _ (by decide))]
    rfl
  have free₁ : (files₁.inside ["keys"]).lookup "b" = none := by
    rw [inside₁]
    rfl
  have opens₂ : closed.Opens files₁ ["keys"] := ⟨opens₁.leads, opens₁.there⟩
  have put₂ := Folder.put_free opens₂ (admits closed rfl (.inr rfl)) hidden₁ free₁ ⟨"π"⟩
  have first := Shared.perform_stored (s := Shared.start files) put₁
  have second := Shared.perform_stored (s := ⟨files₁, Function.update (Shared.start files).origins
    "a" (some (plain, ⟨"0x01"⟩))⟩) put₂
  have origins : s.origins "a" = some (plain, ⟨"0x01"⟩) ∧ s.origins "b" = some (closed, ⟨"π"⟩) := by
    simp only [s, tasks, Shared.after_cons, Shared.perform_get, first, second]
    exact ⟨rfl, rfl⟩
  obtain ⟨reads, -⟩ := read_across_handles files ["keys"] tasks handles
  obtain ⟨readA, -, -⟩ := reads "a" plain ⟨"0x01"⟩ origins.1 closed (handle _)
  obtain ⟨readB, -, -⟩ := reads "b" closed ⟨"π"⟩ origins.2 closed (handle _)
  obtain ⟨readA', -, -⟩ := reads "a" plain ⟨"0x01"⟩ origins.1 plain (handle _)
  obtain ⟨-, refused, -⟩ := reads "b" closed ⟨"π"⟩ origins.2 plain (handle _)
  have unread := refused (by simp [closed]) rfl
  exact ⟨handles, readA (.inl rfl), readB (.inr rfl), readA' (.inl rfl), unread⟩

end Keystore

end ProviderWallet
