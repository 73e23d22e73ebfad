import ProviderWallet.Keystore.Memory
import ProviderWallet.Proofs.FolderFiles
import ProviderWallet.Proofs.RecordName

namespace ProviderWallet

namespace Cache

variable {held : Cache} {account other : Address} {key : KeyText}

theorem find?_cons_self (held : Cache) (account : Address) (key : KeyText) :
    find? ((account, key) :: held) account = some key := by
  rw [find?, List.lookup_cons_self]

theorem find?_cons_of_ne (differ : other ≠ account) :
    find? ((account, key) :: held) other = held.find? other := by
  rw [find?, List.lookup_cons, beq_false_of_ne differ, find?]

theorem find?_erase_self (held : Cache) (account : Address) :
    (held.erase account).find? account = none :=
  lookup_filter_self held

theorem find?_erase_of_ne (differ : other ≠ account) :
    (held.erase account).find? other = held.find? other :=
  lookup_filter_ne differ held

theorem find?_insert_self (held : Cache) (account : Address) (key : KeyText) :
    (held.insert account key).find? account = some key :=
  find?_cons_self _ account key

theorem find?_insert_of_ne (differ : other ≠ account) (held : Cache) (key : KeyText) :
    (held.insert account key).find? other = held.find? other := by
  rw [insert, find?_cons_of_ne differ]
  exact find?_erase_of_ne differ

end Cache

namespace Keystore

variable {σ : Type}

def OthersKept (text : σ → (name : String) → Option String) (account : Address) (s s' : σ) : Prop :=
  ∀ other : Address, other ≠ account → text s' other.recordName = text s other.recordName

/-- The records of a keystore show which keys it holds, and every operation on the record of an
address does what it should to them. The records have texts of their own, of which the keys are
read. -/
structure Keeps (store : Keystore σ) (text : σ → (name : String) → Option String)
    (shows : σ → Cache → Prop) : Prop where
  get {s : σ} {held : Cache} (h : shows s held) (account : Address) :
    store.get s account.recordName = .ok (held.find? account)
  named {s : σ} {held : Cache} (h : shows s held) {name : String} {key : KeyText}
    (found : store.get s name = .ok (some key)) : ∃ account : Address, name = account.recordName
  text_none {s : σ} {held : Cache} (h : shows s held) (account : Address) :
    text s account.recordName = none ↔ held.find? account = none
  put_free {s : σ} {held : Cache} (h : shows s held) {account : Address}
    (free : held.find? account = none) (fresh : Fresh) (key : KeyText) :
    ∃ s', store.put fresh s account.recordName key = (.ok (), s') ∧
      shows s' ((account, key) :: held) ∧ OthersKept text account s s'
  put_taken {s : σ} {held : Cache} (h : shows s held) {account : Address} {old : KeyText}
    (taken : held.find? account = some old) (fresh : Fresh) (key : KeyText) :
    store.put fresh s account.recordName key = (.error (.alreadyExists account.recordName), s)
  delete_found {s : σ} {held : Cache} (h : shows s held) {account : Address} {old : KeyText}
    (found : held.find? account = some old) :
    ∃ s', store.delete s account.recordName = (.ok (), s') ∧ shows s' (held.erase account) ∧
      OthersKept text account s s'
  delete_missing {s : σ} {held : Cache} (h : shows s held) {account : Address}
    (missing : held.find? account = none) :
    ∃ reason, store.delete s account.recordName = (.error (.keystore "delete" reason), s)
  list {s : σ} {held : Cache} (h : shows s held) :
    store.list s = .ok (sortNames (held.map fun (account, _) => account.recordName))

/-- No name is lost and none is added when names are sorted. -/
theorem sortNames_perm (names : List String) : (sortNames names).Perm names :=
  List.mergeSort_perm ..

theorem sortNames_sorted (names : List String) : (sortNames names).Pairwise (· ≤ ·) := by
  have sorted : (sortNames names).Pairwise fun a b => decide (a ≤ b) = true :=
    List.pairwise_mergeSort (fun a b c => by simpa using String.le_trans)
      (fun a b => by simpa using String.le_total a b) names
  simpa using sorted

/-- The order in which names are given does not matter. -/
theorem sortNames_congr {names names' : List String} (h : names.Perm names') :
    sortNames names = sortNames names' := by
  refine List.Perm.eq_of_pairwise (fun _ _ _ _ => String.le_antisymm) (sortNames_sorted names)
    (sortNames_sorted names') ?_
  exact (sortNames_perm names).trans (h.trans (sortNames_perm names').symm)

section memory

def recordsOf (held : Cache) : Records :=
  held.map fun (account, key) => (account.recordName, key)

/-- In memory a key is found by the name of its record. -/
theorem lookup_recordsOf (held : Cache) (account : Address) :
    (recordsOf held).lookup account.recordName = held.find? account := by
  rw [Cache.find?, recordsOf]
  induction held with
  | nil => rfl
  | cons record held ih =>
    obtain ⟨other, key⟩ := record
    have same : (account.recordName == other.recordName) = (account == other) := by
      rw [Bool.eq_iff_iff, beq_iff_eq, beq_iff_eq]
      exact ⟨Address.recordName_injective, congrArg _⟩
    rw [List.map_cons, List.lookup_cons, List.lookup_cons, same, ih]

theorem filter_recordsOf (held : Cache) (account : Address) :
    (recordsOf held).filter (·.1 ≠ account.recordName) = recordsOf (held.erase account) := by
  rw [recordsOf, recordsOf, Cache.erase]
  induction held with
  | nil => rfl
  | cons record held ih =>
    obtain ⟨other, key⟩ := record
    by_cases same : other = account
    · subst same
      rw [List.map_cons, List.filter_cons_of_neg (by simp), ih, List.filter_cons_of_neg (by simp)]
    · have differ : other.recordName ≠ account.recordName := fun h =>
        same (Address.recordName_injective h)
      rw [List.map_cons, List.filter_cons_of_pos (by simpa using differ), ih,
        List.filter_cons_of_pos (by simpa using same), List.map_cons]

def textInMemory (records : Records) (name : String) : Option String :=
  (records.lookup name).map KeyText.text

/-- Records in memory show which keys are held. -/
theorem memory_keeps : memory.Keeps textInMemory fun records held => records = recordsOf held where
  get := by
    rintro s held rfl account
    exact congrArg Except.ok (lookup_recordsOf held account)
  named := by
    rintro s held rfl name key found
    have among := mem_of_lookup (Except.ok.inj found)
    obtain ⟨⟨account, key'⟩, -, same⟩ := List.mem_map.mp among
    exact ⟨account, (congrArg Prod.fst same).symm⟩
  text_none := by
    rintro s held rfl account
    rw [textInMemory, lookup_recordsOf, Option.map_eq_none_iff]
  put_free := by
    rintro s held rfl account free fresh key
    refine ⟨recordsOf ((account, key) :: held), ?_, rfl, ?_⟩
    · simp only [memory, lookup_recordsOf, free]
      rfl
    · intro other differ
      rw [textInMemory, textInMemory, lookup_recordsOf, lookup_recordsOf,
        Cache.find?_cons_of_ne differ]
  put_taken := by
    rintro s held rfl account old taken fresh key
    simp only [memory, lookup_recordsOf, taken]
  delete_found := by
    rintro s held rfl account old found
    refine ⟨recordsOf (held.erase account), ?_, rfl, ?_⟩
    · simp only [memory, lookup_recordsOf, found, filter_recordsOf]
    · intro other differ
      rw [textInMemory, textInMemory, lookup_recordsOf, lookup_recordsOf,
        Cache.find?_erase_of_ne differ]
  delete_missing := by
    rintro s held rfl account missing
    exact ⟨_, by simp only [memory, lookup_recordsOf, missing]; rfl⟩
  list := by
    rintro s held rfl
    simp only [memory, recordsOf, List.map_map]
    rfl

end memory

end Keystore

end ProviderWallet
