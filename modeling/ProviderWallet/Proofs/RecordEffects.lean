import ProviderWallet.Proofs.SharedFolder
import ProviderWallet.Proofs.ShownFiles
import ProviderWallet.Proofs.WalletTask

namespace ProviderWallet

open Storage (Files Place)
open Storage.Files (SameAt KeepsFolders)

namespace Keystore.Folder

/-- A place that does not have the name of a hidden file. -/
def IsShown (place : Place) : Prop :=
  ∀ name, place.getLast? = some name → isHidden name = false

theorem not_isShown_staging (place : Place) (name : String) (fresh : Fresh) :
    ¬ IsShown (place ++ [stagingName name fresh]) := by
  intro shown
  have named := shown _ List.getLast?_concat
  rw [isHidden_stagingName] at named
  cases named

abbrev SameBut (place : Place) : Files → Files → Prop :=
  SameAt fun other => IsShown other ∧ other ≠ place

/-- The record of an account came to be. All other files that are not hidden are as they were. -/
def Adds (folder : Folder) (account : Address) (files files' : Files) : Prop :=
  ∃ above, let place := above ++ [account.recordName]
    files'.locate (folder.recordPath account) = .ok place ∧ files.fileAt? place = none ∧
      (files'.fileAt? place).isSome ∧ SameBut place files files'

def Removes (folder : Folder) (account : Address) (files files' : Files) : Prop :=
  ∃ above, let place := above ++ [account.recordName]
    files'.locate (folder.recordPath account) = .ok place ∧ (files.fileAt? place).isSome ∧
      files'.fileAt? place = none ∧ SameBut place files files'

section

variable {folder : Folder} {account : Address} {files files' files'' : Files}

/-- Folders that come to be before make no difference. -/
theorem Adds.after (only : Files.OnlyFolders files files')
    (h : folder.Adds account files' files'') : folder.Adds account files files'' := by
  obtain ⟨above, leads, free, there, same⟩ := h
  exact ⟨above, leads, (only.same _ trivial).symm.trans free, there, (only.sameAt _).trans same⟩

theorem Removes.after (only : Files.OnlyFolders files files')
    (h : folder.Removes account files' files'') : folder.Removes account files files'' := by
  obtain ⟨above, leads, there, gone, same⟩ := h
  exact ⟨above, leads, only.same _ trivial ▸ there, gone, (only.sameAt _).trans same⟩

end

/-- What a step that may fail does to the records: a change if it succeeds, nothing if it fails. -/
inductive Effect {ε α : Type} (change : α → Files → Prop) (files : Files) :
    Except ε α → Files → Prop where
  | done {a : α} {files' : Files} (h : change a files') : Effect change files (.ok a) files'
  | failed {e : ε} {files' : Files} (same : SameAt IsShown files files') :
      Effect change files (.error e) files'

namespace Effect

variable {ε α : Type} {change change' : α → Files → Prop} {files files' : Files}
  {result : Except ε α}

theorem mono (h : Effect change files result files')
    (imp : ∀ a files', change a files' → change' a files') :
    Effect change' files result files' := by
  cases h with
  | done h => exact .done (imp _ _ h)
  | failed same => exact .failed same

/-- A step that only looks at the files. -/
theorem of_same (same : files' = files) (h : ∀ a, result = .ok a → change a files) :
    Effect change files result files' := by
  subst same
  cases result with
  | error e => exact .failed (.refl _ _)
  | ok a => exact .done (h a rfl)

end Effect

/-- To store a record adds it, or changes nothing if it fails. -/
theorem put_effect (folder : Folder) (files : Files) (account : Address) (fresh : Fresh)
    (key : KeyText) :
    Effect (fun _ => folder.Adds account files) files
      (folder.put none fresh files account.recordName key).1
      (folder.put none fresh files account.recordName key).2 := by
  obtain ⟨result, files', run, course⟩ := folder.put_course none fresh files account.recordName key
  rw [run]
  dsimp only
  cases course with
  | failed f => exact .failed (.refl _ _)
  | cleared f isName leads there =>
    exact .failed (Files.sameAt_erase (not_isShown_staging _ account.recordName fresh))
  | stored isName stages vacant =>
    have stored := Files.find_insert (stages.locate isName) vacant (folder.entryOf fresh key)
    obtain ⟨goes, there⟩ := Files.find_eq_ok.mp stored
    refine .done ⟨_, goes, Files.fileAt?_of_free vacant, ?_,
      Files.sameAt_insert (fun among => among.2 rfl) _⟩
    rw [Files.fileAt?_eq_some.mpr there]
    rfl

theorem delete_effect (folder : Folder) (files : Files) (account : Address) :
    Effect (fun _ => folder.Removes account files) files
      (folder.delete files account.recordName).1 (folder.delete files account.recordName).2 := by
  obtain ⟨result, files', run, course⟩ := folder.delete_course files account.recordName
  rw [run]
  dsimp only
  cases course with
  | failed f => exact .failed (.refl _ _)
  | @deleted place mode content isName leads goes there =>
    have folders : KeepsFolders files (files.erase (place ++ [account.recordName])) :=
      Files.keepsFolders_erase (by simp [there])
    refine .done ⟨place, folders.locate goes, ?_, ?_, ?_⟩
    · rw [Files.fileAt?_eq_some.mpr there]
      rfl
    · apply Files.fileAt?_of_free
      rw [Files.entryAt?_child, Files.inside_erase, lookup_filter_self]
    · exact Files.sameAt_erase fun among => among.2 rfl

end Keystore.Folder

namespace Wallet

open Keystore (Folder)
open Keystore.Folder (Effect IsShown)

section

variable {σ : Type} {store : Keystore σ} {w : Wallet σ} {account : Address}

/-- Only a key that was found and is one signs. -/
theorem key_of_sign {message : Bytes} {text : String}
    (signed : (w.sign store account message).1 = .ok text) :
    ∃ key secret, (w.find store account).1 = .ok (some key) ∧ key.secret = .ok secret := by
  cases found : (w.find store account).1 with
  | error f =>
    rw [sign_failed (require_failed found "sign")] at signed
    cases signed
  | ok stored =>
    cases stored with
    | none =>
      rw [sign_failed (require_missing found "sign")] at signed
      cases signed
    | some key =>
      rw [sign_required (require_found found "sign")] at signed
      cases known : key.secret with
      | error f =>
        rw [known] at signed
        cases signed
      | ok secret => exact ⟨key, secret, rfl, known⟩

end

variable (folder : Folder) (w : Wallet Files)

/-- A wallet that stores a key adds one record, that of the key's own address. -/
theorem Storing.effect {w : Wallet Files} {fresh : Fresh} {key : KeyText}
    {outcome : Except Failure Address × Wallet Files}
    (storing : Storing folder.keystore w fresh key outcome) :
    Effect (fun account files' => key.address = .ok account ∧ folder.Adds account w.records files')
      w.records outcome.1 outcome.2.records := by
  cases storing with
  | refused f => exact .failed (.refl _ _)
  | failed account f f' records put =>
    have effect := folder.put_effect w.records account fresh key
    rw [← Keystore.Folder.keystore_put, put] at effect
    cases effect with
    | failed same => exact .failed same
  | stored account records address put =>
    have effect := folder.put_effect w.records account fresh key
    rw [← Keystore.Folder.keystore_put, put] at effect
    cases effect with
    | done adds => exact .done ⟨address, adds⟩

/-- An imported key has a record afterwards, unless it was refused. -/
theorem importKey_effect (fresh : Fresh) (key : KeyText) :
    Effect (fun account => folder.Adds account w.records) w.records
      (w.importKey folder.keystore fresh key).1
      (w.importKey folder.keystore fresh key).2.records := by
  have storing := w.importKey_storing folder.keystore fresh key
  exact (storing.effect folder).mono fun account files' => And.right

theorem generate_effect (fresh : Fresh) (secret : SecretKey) :
    Effect (fun account files' => account = secret.address ∧ folder.Adds account w.records files')
      w.records (w.generate folder.keystore fresh secret).1
      (w.generate folder.keystore fresh secret).2.records := by
  have storing := w.generate_storing folder.keystore fresh secret
  refine (storing.effect folder).mono ?_
  rintro account files' ⟨address, adds⟩
  rw [secret.address_text] at address
  cases address
  exact ⟨rfl, adds⟩

theorem delete_effect (account : Address) :
    Effect (fun _ => folder.Removes account w.records) w.records
      (w.delete folder.keystore account).1 (w.delete folder.keystore account).2.records := by
  unfold delete
  have effect := folder.delete_effect w.records account
  rw [← Keystore.Folder.keystore_delete] at effect
  generalize folder.keystore.delete w.records account.recordName = outcome at effect ⊢
  obtain ⟨result, files'⟩ := outcome
  cases effect with
  | done removes => exact .done removes
  | failed same => exact .failed same

end Wallet

end ProviderWallet
