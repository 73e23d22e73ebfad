import ProviderWallet.Proofs.FolderRecords
import ProviderWallet.Proofs.InTurn

namespace ProviderWallet.Keystore

open Storage (Files)

variable {σ : Type}

inductive RecordTask where
  | get (name : String)
  | put (fresh : Fresh) (name : String) (key : KeyText)
  | delete (name : String)
  | list

inductive RecordReply where
  | found (key : Option KeyText)
  | stored
  | deleted
  | listed (names : List String)
  deriving DecidableEq, Repr

namespace RecordTask

def run (store : Keystore σ) (task : RecordTask) (s : σ) : Except Failure RecordReply × σ :=
  match task with
  | get name => ((store.get s name).map .found, s)
  | put fresh name key => (store.put fresh s name key).map (·.map fun () => .stored) id
  | delete name => (store.delete s name).map (·.map fun () => .deleted) id
  | list => ((store.list s).map .listed, s)

def name? : RecordTask → Option String
  | get name | put _ name _ | delete name => some name
  | list => none

/-- What a keystore says to tasks that are done one after the other. -/
def replies (store : Keystore σ) (tasks : List RecordTask) (s : σ) :
    List (Except Failure RecordReply) :=
  (inTurn (run store) tasks s).1

end RecordTask

/-- Letters, digits, hyphens and underscores, and few enough of them that a file can have the name
with what marks it as hidden. -/
structure IsRecordName (name : String) : Prop where
  nonempty : name ≠ ""
  plain : ∀ c ∈ name.toList, c.isAlphanum ∨ c = '-' ∨ c = '_'
  short : name.utf8ByteSize ≤ 233

namespace Folder

variable {folder : Folder} {files : Files} {records : Records}

/-- Nothing is in the folder, and its path leaves room for the names of files. -/
def IsFresh (folder : Folder) (files : Files) : Prop :=
  ∃ place, folder.Opens files place ∧ folder.path.utf8ByteSize + 255 < Files.maxPath ∧
    ∀ name, files.entryAt? (place ++ [name]) = none

/-- The name of a record is short enough for a folder whose path leaves room. -/
theorem admits_name (room : folder.path.utf8ByteSize + 255 < Files.maxPath) {name : String}
    (h : IsRecordName name) : folder.Admits name := by
  obtain ⟨nonempty, plain, short⟩ := h
  refine ⟨?_, short, by omega⟩
  simp only [isName, isNameChar, Bool.and_eq_true, decide_eq_true_eq, List.all_eq_true,
    Bool.or_eq_true, or_assoc]
  exact ⟨nonempty, plain⟩

/-- A task is answered as in memory, and leaves the records that memory has then. -/
theorem run_mirrors (h : folder.Mirrors files records) (task : RecordTask)
    (admits : ∀ name ∈ task.name?, folder.Admits name) :
    (task.run folder.keystore files).1 = (task.run memory records).1 ∧
      folder.Mirrors (task.run folder.keystore files).2 (task.run memory records).2 := by
  cases task with
  | get name =>
    have found := get_mirrors h (admits name rfl)
    simp only [RecordTask.run, keystore_get, found]
    exact ⟨trivial, h⟩
  | put fresh name key =>
    obtain ⟨files', put, mirrors, -⟩ := put_mirrors h (admits name rfl) fresh key
    simp only [RecordTask.run, keystore_put, put]
    exact ⟨rfl, mirrors⟩
  | delete name =>
    obtain ⟨files', deleted, mirrors, -⟩ := delete_mirrors h (admits name rfl)
    simp only [RecordTask.run, keystore_delete, deleted]
    exact ⟨rfl, mirrors⟩
  | list =>
    have listed := list_mirrors h
    simp only [RecordTask.run, keystore_list, listed]
    exact ⟨trivial, h⟩

/-- A folder with nothing in it, sealed or not, and an empty memory give the same answers: the same
keys, the same failures and the same lists. -/
theorem replies_as_memory (folder : Folder) (files : Files) (fresh : folder.IsFresh files)
    (tasks : List RecordTask)
    (names : ∀ task ∈ tasks, ∀ name ∈ task.name?, IsRecordName name) :
    RecordTask.replies folder.keystore tasks files = RecordTask.replies memory tasks [] := by
  obtain ⟨place, opens, room, empty⟩ := fresh
  have one : ∀ task ∈ tasks, ∀ files records, folder.Mirrors files records →
      (task.run folder.keystore files).1 = (task.run memory records).1 ∧
        folder.Mirrors (task.run folder.keystore files).2 (task.run memory records).2 := by
    intro task among files records h
    apply run_mirrors h
    intro name about
    exact admits_name room (names task among name about)
  have start : folder.Mirrors files [] := mirrors_nothing opens empty
  obtain ⟨same, -⟩ := inTurn_related one start
  exact same

/-- Sealed records of two keys. The text of one is not even the text of a key. -/
theorem sealed_replies_as_memory :
    let folder : Folder := ⟨"/keys", some "secret"⟩
    let files := Files.withFolder ["keys"]
    let quoted : KeyText := ⟨"\"π\" \\ \n"⟩
    let tasks : List RecordTask :=
      [.get "b", .put ⟨0, 0, 0⟩ "b" ⟨"0x01"⟩, .put ⟨1, 1, 0⟩ "A-1" quoted, .get "A-1",
        .put ⟨2, 2, 2⟩ "b" quoted, .list, .delete "b", .delete "b", .list]
    folder.IsFresh files ∧ (∀ task ∈ tasks, ∀ name ∈ task.name?, IsRecordName name) ∧
      RecordTask.replies folder.keystore tasks files =
        [.ok (.found none), .ok .stored, .ok .stored, .ok (.found (some quoted)),
          .error (.alreadyExists "b"), .ok (.listed ["A-1", "b"]), .ok .deleted,
          .error (.keystore "delete" "record b not found"), .ok (.listed ["A-1"])] := by
  intro folder files quoted tasks
  have fresh : folder.IsFresh files := by
    refine ⟨["keys"], ⟨by decide +kernel, ⟨0o755, rfl⟩⟩, by decide, fun name => ?_⟩
    rfl
  have names : ∀ task ∈ tasks, ∀ name ∈ task.name?, IsRecordName name := by
    have b : IsRecordName "b" := ⟨by decide, by simp, by decide⟩
    have a : IsRecordName "A-1" := ⟨by decide, by simp, by decide⟩
    simp [tasks, RecordTask.name?, a, b]
  refine ⟨fresh, names, ?_⟩
  have both : sortNames ["A-1", "b"] = ["A-1", "b"] := List.mergeSort_of_pairwise (by decide)
  have one : sortNames ["A-1"] = ["A-1"] := List.mergeSort_singleton _
  rw [replies_as_memory folder files fresh tasks names]
  simp [tasks, RecordTask.replies, inTurn, RecordTask.run, memory, Except.map, List.lookup_cons,
    both, one]

end Folder

end ProviderWallet.Keystore
