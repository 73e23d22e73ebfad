import ProviderWallet.Config.Load
import ProviderWallet.Proofs.LastingRecords

namespace ProviderWallet

namespace Storage.Files

variable {files files' files'' : Files} {place next : Place} {places : Place → Prop} {path : String}

def fileAt? (files : Files) (place : Place) : Option (Nat × Bytes) :=
  match files.entryAt? place with
  | some (.file mode content) => some (mode, content)
  | _ => none

theorem fileAt?_eq_some {mode : Nat} {content : Bytes} :
    files.fileAt? place = some (mode, content) ↔
      files.entryAt? place = some (.file mode content) := by
  unfold fileAt?
  split
  · rename_i there
    rw [there]
    simp
  · rename_i other
    constructor
    · intro found
      cases found
    · intro there
      exact absurd there (other mode content)

theorem fileAt?_congr (h : files'.entryAt? place = files.entryAt? place) :
    files'.fileAt? place = files.fileAt? place := by
  rw [fileAt?, fileAt?, h]

theorem fileAt?_of_folder {mode : Nat} (there : files.entryAt? place = some (.folder mode)) :
    files.fileAt? place = none := by
  rw [fileAt?, there]

theorem fileAt?_of_free (free : files.entryAt? place = none) : files.fileAt? place = none := by
  rw [fileAt?, free]

def SameAt (places : Place → Prop) (files files' : Files) : Prop :=
  ∀ place, places place → files'.fileAt? place = files.fileAt? place

theorem SameAt.refl (places : Place → Prop) (files : Files) : SameAt places files files :=
  fun _ _ => rfl

theorem SameAt.trans (h : SameAt places files files') (h' : SameAt places files' files'') :
    SameAt places files files'' :=
  fun place among => (h' place among).trans (h place among)

theorem SameAt.mono {fewer : Place → Prop} (h : SameAt places files files')
    (imp : ∀ place, fewer place → places place) : SameAt fewer files files' :=
  fun place among => h place (imp place among)

theorem sameAt_insert (away : ¬ places place) (entry : Entry) :
    SameAt places files (files.insert place entry) := by
  intro other among
  have differ : other ≠ place := by
    rintro rfl
    exact away among
  exact fileAt?_congr (entryAt?_insert_of_ne differ entry)

theorem sameAt_erase (away : ¬ places place) : SameAt places files (files.erase place) := by
  intro other among
  have differ : other ≠ place := by
    rintro rfl
    exact away among
  exact fileAt?_congr (entryAt?_erase_of_ne differ)

/-- Folders may have come to be. All files are as they were, and paths lead where they led. -/
structure OnlyFolders (files files' : Files) : Prop where
  same : SameAt (fun _ => True) files files'
  ways : KeepsWays files files'

namespace OnlyFolders

theorem refl (files : Files) : OnlyFolders files files :=
  ⟨.refl _ files, ⟨fun _ mode there => ⟨mode, there⟩, rfl⟩⟩

theorem trans (h : OnlyFolders files files') (h' : OnlyFolders files' files'') :
    OnlyFolders files files'' := by
  refine ⟨h.same.trans h'.same, ⟨?_, h'.ways.working.trans h.ways.working⟩⟩
  intro place mode there
  obtain ⟨mode', there'⟩ := h.ways.folder place mode there
  exact h'.ways.folder place mode' there'

theorem sameAt (h : OnlyFolders files files') (places : Place → Prop) :
    SameAt places files files' :=
  h.same.mono fun _ _ => trivial

theorem keepsFile (h : OnlyFolders files files') (path : String) : KeepsFile path files files' := by
  intro place mode content found
  obtain ⟨leads, there⟩ := find_eq_ok.mp found
  have there' := (h.same place trivial).trans (fileAt?_eq_some.mpr there)
  exact find_eq_ok.mpr ⟨h.ways.locate leads, fileAt?_eq_some.mp there'⟩

/-- A folder comes to be, or has another mode. -/
theorem insert (free : files.fileAt? place = none) (mode : Nat) :
    OnlyFolders files (files.insert place (.folder mode)) := by
  by_cases root : place = []
  · -- Nothing else can stand at the root.
    subst root
    refine ⟨fun other _ => ?_, ⟨fun other mode' there => ?_, rfl⟩⟩
    · by_cases same : other = []
      · subst same
        rfl
      · exact fileAt?_congr (entryAt?_insert_of_ne same _)
    · by_cases same : other = []
      · subst same
        exact ⟨0o755, rfl⟩
      · exact ⟨mode', by rw [entryAt?_insert_of_ne same, there]⟩
  · refine ⟨fun other _ => ?_, ⟨fun other mode' there => ?_, rfl⟩⟩
    · by_cases same : other = place
      · subst same
        rw [free, fileAt?_of_folder (entryAt?_insert_self root _)]
      · exact fileAt?_congr (entryAt?_insert_of_ne same _)
    · by_cases same : other = place
      · subst same
        exact ⟨mode, entryAt?_insert_self root _⟩
      · exact ⟨mode', by rw [entryAt?_insert_of_ne same, there]⟩

end OnlyFolders

theorem makeStep_ok {s : Step} (goes : files.makeStep place s = .ok (files', next)) :
    OnlyFolders files files' ∧ files'.step place s = .ok next := by
  rw [makeStep] at goes
  obtain ⟨last, first, goes⟩ := bind_ok goes
  cases there : files.entryAt? last with
  | some entry =>
    rw [there] at goes
    cases goes
    exact ⟨.refl files, first⟩
  | none =>
    rw [there] at goes
    cases goes
    have made : OnlyFolders files (files.insert next (.folder 0o755)) :=
      .insert (fileAt?_of_free there) _
    exact ⟨made, made.ways.step first⟩

/-- The way that is made is a way afterwards. -/
theorem makeSteps_ok {steps : List Step} {last : Place}
    (goes : steps.foldlM (fun (files, place) s => files.makeStep place s) (files, place) =
      .ok (files', last)) :
    OnlyFolders files files' ∧ steps.foldlM files'.step place = .ok last := by
  induction steps generalizing files place with
  | nil =>
    cases goes
    exact ⟨.refl _, rfl⟩
  | cons s steps ih =>
    rw [List.foldlM_cons] at goes
    obtain ⟨⟨between, next⟩, first, goes⟩ := bind_ok goes
    obtain ⟨made, step⟩ := makeStep_ok first
    obtain ⟨rest, walked⟩ := ih goes
    refine ⟨made.trans rest, ?_⟩
    rw [List.foldlM_cons, rest.ways.step step]
    exact walked

/-- A folder and those around it come to be, and nothing else. -/
theorem createFolders_ok (done : files.createFolders path = .ok files') :
    OnlyFolders files files' ∧
      ∀ place entry, files'.find path = .ok (place, entry) → ∃ mode, entry = .folder mode := by
  unfold createFolders at done
  by_cases empty : path = ""
  · rw [if_pos empty] at done
    cases done
    refine ⟨.refl files, fun place entry found => ?_⟩
    obtain ⟨-, nonempty, -⟩ := locate_eq_ok.mp (find_eq_ok.mp found).1
    exact absurd empty nonempty
  · rw [if_neg empty] at done
    dsimp only at done
    split at done
    · cases done
    · split at done
      · cases done
      · obtain ⟨⟨made, last⟩, goes, done⟩ := bind_ok done
        obtain ⟨folders, walked⟩ := makeSteps_ok goes
        dsimp only at done
        split at done
        · rename_i mode there
          cases done
          refine ⟨folders, fun place entry found => ?_⟩
          obtain ⟨leads, there'⟩ := find_eq_ok.mp found
          obtain ⟨-, -, -, walks⟩ := locate_eq_ok.mp leads
          rw [walk, folders.ways.working, walked] at walks
          cases walks
          rw [there] at there'
          exact ⟨mode, (Option.some.inj there').symm⟩
        · cases done

theorem setMode_folder {mode : Nat}
    (folder : ∀ place entry, files.find path = .ok (place, entry) → ∃ mode, entry = .folder mode)
    (done : files.setMode path mode = .ok files') : OnlyFolders files files' := by
  rw [setMode] at done
  obtain ⟨⟨place, entry⟩, found, done⟩ := bind_ok done
  obtain ⟨old, rfl⟩ := folder place entry found
  dsimp only at done
  split at done
  · cases done
    exact .refl files
  · cases done
    exact .insert (fileAt?_of_folder (find_eq_ok.mp found).2) mode

/-- A folder for its owner alone comes to be, and nothing else. -/
theorem createPrivate_ok (done : files.createPrivate path = .ok files') :
    OnlyFolders files files' := by
  rw [createPrivate] at done
  split at done
  · cases done
    exact .refl files
  · obtain ⟨made, created, done⟩ := bind_ok done
    obtain ⟨folders, folder⟩ := createFolders_ok created
    exact folders.trans (setMode_folder folder done)

end Storage.Files

end ProviderWallet
