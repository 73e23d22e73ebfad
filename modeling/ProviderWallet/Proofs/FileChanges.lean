import ProviderWallet.Proofs.FolderFiles

namespace ProviderWallet.Storage

namespace Path

/-- All paths inside a folder start alike. -/
theorem join_front (path : String) : ∃ front : String,
    ∀ name, IsName name → join path name = front ++ name := by
  by_cases plain : path.toList.getLast? = some '/' ∨ path = ""
  · refine ⟨path, fun name isName => ?_⟩
    rw [join, if_neg (by rw [isName.not_absolute]; simp), if_pos plain]
  · refine ⟨path ++ "/", fun name isName => ?_⟩
    rw [join, if_neg (by rw [isName.not_absolute]; simp), if_neg plain]

end Path

namespace Files

open ProviderWallet.Storage.Path (IsName)

variable {files files' : Files} {path name other : String} {place last : Place}

/-- What succeeds has succeeded in both of its steps. -/
theorem bind_ok {α β : Type} {x : Except Fault α} {f : α → Except Fault β} {b : β}
    (done : (x >>= f) = .ok b) : ∃ a, x = .ok a ∧ f a = .ok b := by
  cases x with
  | error fault => cases done
  | ok a => exact ⟨a, rfl, done⟩

theorem find_eq_ok {entry : Entry} : files.find path = .ok (place, entry) ↔
    files.locate path = .ok place ∧ files.entryAt? place = some entry := by
  constructor
  · intro found
    rw [find] at found
    obtain ⟨last, leads, found⟩ := bind_ok found
    cases there : files.entryAt? last with
    | none =>
      rw [there] at found
      cases found
    | some entry' =>
      rw [there] at found
      cases found
      exact ⟨leads, there⟩
  · rintro ⟨leads, there⟩
    exact find_eq leads there

theorem remove_ok (done : files.remove path = .ok files') :
    ∃ place mode content, files.find path = .ok (place, .file mode content) ∧
      files' = files.erase place := by
  rw [remove] at done
  obtain ⟨⟨place, entry⟩, found, done⟩ := bind_ok done
  cases entry with
  | folder mode => cases done
  | file mode content =>
    cases done
    exact ⟨place, mode, content, found, rfl⟩

theorem readText_ok {text : String} (done : files.readText path = .ok text) :
    ∃ place mode content, files.find path = .ok (place, .file mode content) ∧
      Bytes.toText? content = some text := by
  rw [readText] at done
  obtain ⟨content, done, said⟩ := bind_ok done
  rw [read] at done
  obtain ⟨⟨place, entry⟩, found, done⟩ := bind_ok done
  cases entry with
  | folder mode => cases done
  | file mode content' =>
    cases done
    refine ⟨place, mode, content, found, ?_⟩
    cases decoded : Bytes.toText? content with
    | none =>
      rw [decoded] at said
      cases said
    | some text' =>
      rw [decoded] at said
      cases said
      rfl

/-- The file that a path leads to, if it leads to one, is still there as it was. -/
def KeepsFile (path : String) (files files' : Files) : Prop :=
  ∀ place mode content, files.find path = .ok (place, .file mode content) →
    files'.find path = .ok (place, .file mode content)

theorem KeepsFile.refl (path : String) (files : Files) : KeepsFile path files files :=
  fun _ _ _ found => found

theorem KeepsFile.readText (h : KeepsFile path files files') {text : String}
    (reads : files.readText path = .ok text) : files'.readText path = .ok text := by
  obtain ⟨place, mode, content, found, said⟩ := readText_ok reads
  have found' := h place mode content found
  simp only [Files.readText, read, bind, Except.bind, found', said]

/-- A file where nothing was takes no other file's place. -/
theorem keepsFile_insert (free : files.entryAt? place = none) (entry : Entry) :
    KeepsFile path files (files.insert place entry) := by
  intro last mode content found
  obtain ⟨leads, there⟩ := find_eq_ok.mp found
  have differ : last ≠ place := by
    rintro rfl
    rw [free] at there
    cases there
  have folders : KeepsFolders files (files.insert place entry) := by
    apply keepsFolders_insert
    simp [free]
  rw [find_eq_ok, entryAt?_insert_of_ne differ]
  exact ⟨folders.locate leads, there⟩

/-- A file that goes is the only one that goes. -/
theorem keepsFile_erase {mode : Nat} {content : Bytes}
    (there : files.entryAt? place = some (.file mode content))
    (away : files.locate path ≠ .ok place) : KeepsFile path files (files.erase place) := by
  intro last mode' content' found
  obtain ⟨leads, there'⟩ := find_eq_ok.mp found
  have differ : last ≠ place := by
    rintro rfl
    exact away leads
  have folders : KeepsFolders files (files.erase place) :=
    keepsFolders_erase (by simp [there])
  rw [find_eq_ok, entryAt?_erase_of_ne differ]
  exact ⟨folders.locate leads, there'⟩

theorem ne_root_of_free (free : files.entryAt? place = none) : place ≠ [] := by
  rintro rfl
  cases free

theorem find_insert (leads : files.locate path = .ok place) (free : files.entryAt? place = none)
    (entry : Entry) : (files.insert place entry).find path = .ok (place, entry) := by
  have folders : KeepsFolders files (files.insert place entry) := by
    apply keepsFolders_insert
    simp [free]
  exact find_eq (folders.locate leads) (entryAt?_insert_self (ne_root_of_free free) entry)

/-- A path in a folder does not lead to what has another name. -/
theorem locate_join_ne (isName : IsName name) (differ : other ≠ name)
    (place : Place) : files.locate (Path.join path name) ≠ .ok (place ++ [other]) := by
  intro goes
  obtain ⟨folder, same⟩ := name_of_locate_join isName goes
  exact differ (by simpa using congrArg List.getLast? same)

theorem exists?_of_free (leads : files.locate path = .ok place)
    (free : files.entryAt? place = none) : files.exists? path = false := by
  rw [exists?, find_missing leads free]
  rfl

theorem short_of_step_down {next : Place} {name : String}
    (goes : files.step place (.down name) = .ok next) : name.utf8ByteSize ≤ maxName := by
  obtain ⟨mode, there⟩ := folder_of_step goes
  unfold step at goes
  simp only [there] at goes
  by_cases long : maxName < name.utf8ByteSize
  · rw [if_pos long] at goes
    cases goes
  · exact Nat.not_lt.mp long

/-- A path leads to something in a folder only if the folder is there. -/
theorem folder_of_locate_join (isName : IsName name)
    (goes : files.locate (Path.join path name) = .ok last) : ∃ place mode,
      files.walk (.ofText path) = .ok place ∧ files.entryAt? place = some (.folder mode) ∧
        last = place ++ [name] := by
  obtain ⟨-, -, -, walks⟩ := locate_eq_ok.mp goes
  obtain ⟨place, leads, goes⟩ := folder_of_walk_join isName walks
  obtain ⟨mode, there⟩ := folder_of_step goes
  exact ⟨place, mode, leads, there, place_of_step_down goes⟩

/-- Where a name leads somewhere, one that is not longer does so, too. -/
theorem locate_sibling (isName : IsName name) (isName' : IsName other)
    (shorter : other.utf8ByteSize ≤ name.utf8ByteSize)
    (leads : files.walk (.ofText path) = .ok place)
    (goes : files.locate (Path.join path name) = .ok last) :
    files.locate (Path.join path other) = .ok (place ++ [other]) := by
  obtain ⟨no_zero, -, room, walks⟩ := locate_eq_ok.mp goes
  obtain ⟨front, joined⟩ := Path.join_front path
  rw [walk_join_of_ok leads isName] at walks
  obtain ⟨mode, there⟩ := folder_of_step walks
  have short := Nat.le_trans shorter (short_of_step_down walks)
  have goes' := (walk_join_of_ok leads isName').trans (step_down there short)
  rw [joined name isName] at no_zero room
  rw [joined other isName'] at goes' ⊢
  refine locate_eq_ok.mpr ⟨?_, ?_, ?_, goes'⟩
  · rw [String.toList_append, List.mem_append] at no_zero ⊢
    rintro (zero | zero)
    · exact no_zero (.inl zero)
    · exact isName'.no_zero zero
  · intro empty
    exact isName'.nonempty (String.append_eq_empty_iff.mp empty).2
  · rw [String.utf8ByteSize_append] at room ⊢
    omega

end Files

end ProviderWallet.Storage
