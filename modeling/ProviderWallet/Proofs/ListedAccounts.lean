import Mathlib.Data.List.Nodup
import Mathlib.Data.List.Pairwise
import ProviderWallet.Proofs.Custody
import ProviderWallet.Proofs.QuickDigest
import ProviderWallet.Proofs.SharedFolder

namespace ProviderWallet

theorem lookup_of_mem {κ ν : Type} [BEq κ] [LawfulBEq κ] {entries : List (κ × ν)} {k : κ} {v : ν}
    (once : (entries.map Prod.fst).Nodup) (among : (k, v) ∈ entries) :
    entries.lookup k = some v := by
  induction entries with
  | nil => cases among
  | cons entry entries ih =>
    obtain ⟨l, u⟩ := entry
    obtain ⟨fresh, once⟩ := List.nodup_cons.mp once
    rcases List.mem_cons.mp among with same | later
    · cases same
      exact List.lookup_cons_self
    · have differ : k ≠ l := by
        rintro rfl
        exact fresh (List.mem_map.mpr ⟨_, later, rfl⟩)
      rw [List.lookup_cons, beq_false_of_ne differ]
      exact ih once later

namespace Storage.Files

open ProviderWallet.Storage.Path (IsName)

variable {files : Files} {path name : String} {place : Place}

def EachOnce (files : Files) : Prop :=
  (files.entries.map Prod.fst).Nodup

/-- What is in a folder has different names there. -/
theorem EachOnce.inside (once : files.EachOnce) (folder : Place) :
    ((files.inside folder).map Prod.fst).Nodup := by
  rw [EachOnce, List.nodup_iff_pairwise_ne, List.pairwise_map] at once
  rw [List.nodup_iff_pairwise_ne, List.pairwise_map, Files.inside, List.pairwise_filterMap]
  refine once.imp ?_
  rintro ⟨place, entry⟩ ⟨place', entry'⟩ differ child shown child' shown' same
  obtain ⟨name, named, rfl⟩ := Option.map_eq_some_iff.mp shown
  obtain ⟨name', named', rfl⟩ := Option.map_eq_some_iff.mp shown'
  obtain rfl : name = name' := same
  exact differ ((childOf?_eq_some.mp named).trans (childOf?_eq_some.mp named').symm)

/-- Only its length keeps the path of something in a folder from leading there. -/
theorem locate_join_cases {mode : Nat} (leads : files.locate path = .ok place)
    (there : files.entryAt? place = some (.folder mode)) (isName : IsName name) :
    files.locate (Path.join path name) = .ok (place ++ [name]) ∨
      files.locate (Path.join path name) = .error .nameTooLong := by
  obtain ⟨no_zero, nonempty, -, walk⟩ := locate_eq_ok.mp leads
  have joined := walk_join_of_ok walk isName
  have no_zero' : '\x00' ∉ (Path.join path name).toList := by
    rw [Path.join, if_neg (by rw [isName.not_absolute]; simp)]
    split <;> simp [no_zero, isName.no_zero]
  have nonempty' : Path.join path name ≠ "" := by
    rw [Path.join, if_neg (by rw [isName.not_absolute]; simp)]
    split <;> simp [nonempty]
  rw [locate, if_neg (by simpa using no_zero'), if_neg nonempty']
  by_cases long : maxPath < (Path.join path name).utf8ByteSize
  · exact .inr (if_pos long)
  · rw [if_neg long, joined, step, there]
    by_cases wide : maxName < name.utf8ByteSize
    · exact .inr (if_pos wide)
    · exact .inl (if_neg wide)

/-- A file in a folder is not missing, even if it cannot be read. -/
theorem readText_ne_missing {mode mode' : Nat} {content : Bytes}
    (leads : files.locate path = .ok place)
    (there : files.entryAt? place = some (.folder mode)) (isName : IsName name)
    (file : files.entryAt? (place ++ [name]) = some (.file mode' content)) :
    files.readText (Path.join path name) ≠ .error .notFound := by
  rcases locate_join_cases leads there isName with goes | long
  · have found := find_eq goes file
    cases said : Bytes.toText? content <;>
      simp [readText, read, bind, Except.bind, found, said]
  · simp [readText, read, find, bind, Except.bind, long]

end Storage.Files

namespace Keystore.Folder

open Storage (Files)

variable {folder : Folder} {files : Files} {names : List String}

theorem listed?_eq_some {entry : String × Storage.Entry} {name : String}
    (shown : listed? entry = some name) : ∃ mode content, entry = (name, .file mode content) := by
  obtain ⟨name', entry⟩ := entry
  cases entry with
  | folder mode => cases shown
  | file mode content =>
    by_cases hidden : isHidden name' = true
    · simp [listed?, hidden] at shown
    · obtain rfl : name' = name := by simpa [listed?, hidden] using shown
      exact ⟨mode, content, rfl⟩

/-- Files are listed only if the path leads to their folder. -/
theorem opens_of_list (listed : folder.list files = .ok names) :
    ∃ place, folder.Opens files place ∧
      names = sortNames ((files.inside place).filterMap listed?) := by
  cases found : files.find folder.path with
  | error fault => simp [list, Files.list, bind, Except.bind, found] at listed
  | ok outcome =>
    obtain ⟨place, entry⟩ := outcome
    cases entry with
    | file mode content => simp [list, Files.list, bind, Except.bind, found] at listed
    | folder mode =>
      obtain ⟨leads, there⟩ := Files.find_eq_ok.mp found
      have opens : folder.Opens files place := ⟨leads, mode, there⟩
      rw [list_inside opens] at listed
      cases listed
      exact ⟨place, opens, rfl⟩

theorem list_once (once : files.EachOnce) (listed : folder.list files = .ok names) :
    names.Nodup := by
  obtain ⟨place, -, rfl⟩ := opens_of_list listed
  have inside := once.inside place
  rw [(sortNames_perm _).nodup_iff, List.nodup_iff_pairwise_ne, List.pairwise_filterMap]
  rw [List.nodup_iff_pairwise_ne, List.pairwise_map] at inside
  refine inside.imp ?_
  intro entry entry' differ name shown name' shown'
  obtain ⟨mode, content, rfl⟩ := listed?_eq_some shown
  obtain ⟨mode', content', rfl⟩ := listed?_eq_some shown'
  exact differ

/-- A file that is listed may be no record, but it is there. -/
theorem get_listed (once : files.EachOnce) (listed : folder.list files = .ok names)
    {name : String} (among : name ∈ names) : folder.get files name ≠ .ok none := by
  obtain ⟨place, ⟨leads, mode, there⟩, rfl⟩ := opens_of_list listed
  have among := (sortNames_perm _).mem_iff.mp among
  obtain ⟨entry, inside, shown⟩ := List.mem_filterMap.mp among
  obtain ⟨mode', content, rfl⟩ := listed?_eq_some shown
  have file : files.entryAt? (place ++ [name]) = some (.file mode' content) := by
    rw [Files.entryAt?_child]
    exact lookup_of_mem (once.inside place) inside
  by_cases allowed : isName name = true
  · have path : folder.pathOf name = .ok (Storage.Path.join folder.path name) := if_pos allowed
    have present := Files.readText_ne_missing leads there (path_isName allowed) file
    rw [get, path]
    simp only [bind, Except.bind]
    split
    · contradiction
    · simp
    · split
      · simp
      · split <;> simp
  · simp [get_refused (by simpa using allowed)]

end Keystore.Folder

variable {σ : Type}

def Repository.EachOnce : Repository σ → σ → Prop
  | .memory, records => (List.map Prod.fst (α := String × KeyText) records).Nodup
  | .folder _, files => files.EachOnce

namespace Repository

variable {repository : Repository σ} {records : σ} {names : List String}

theorem list_once (once : repository.EachOnce records)
    (listed : repository.store.list records = .ok names) : names.Nodup := by
  cases repository with
  | memory =>
    cases listed
    exact (Keystore.sortNames_perm _).nodup_iff.mpr once
  | folder f => exact Keystore.Folder.list_once once listed

/-- No name is listed that leads to nothing. -/
theorem get_listed (once : repository.EachOnce records)
    (listed : repository.store.list records = .ok names) {name : String} (among : name ∈ names) :
    repository.store.get records name ≠ .ok none := by
  cases repository with
  | memory =>
    cases listed
    obtain ⟨record, there, rfl⟩ :=
      List.mem_map.mp ((Keystore.sortNames_perm _).mem_iff.mp among)
    intro missing
    have none : List.lookup record.1 records = none := Except.ok.inj missing
    rw [lookup_of_mem once there] at none
    cases none
  | folder f => exact Keystore.Folder.get_listed once listed among

end Repository

/-- If two names say the same address then they are one name. -/
def OneSpelling (name name' : String) : Prop :=
  ∀ account, Address.ofRecordName? name = some account →
    Address.ofRecordName? name' = some account → name = name'

instance : Std.Symm OneSpelling :=
  ⟨fun _ _ same account means means' => (same account means' means).symm⟩

/-- What a listing says about the records, and about looking their keys up. -/
structure Listing (repository : Repository σ) (w : Wallet σ) (names : List String)
    (accounts : List Address) : Prop where
  shown : repository.store.list w.records = .ok names
  names_once : names.Nodup
  /-- An address is listed once for each record whose name says it in some spelling. -/
  count (account : Address) : accounts.count account =
    names.countP fun name => Address.ofRecordName? name = some account
  once : accounts.Nodup ↔ ∀ name ∈ names, ∀ name' ∈ names, OneSpelling name name'
  /-- An address is looked up by one name alone. -/
  missed (account : Address) : (w.find repository.store account).1 = .ok none ↔
    w.cache.find? account = none ∧
      repository.store.get w.records account.recordName = .ok none
  /-- All records of an address that is listed and not found have other names than that. -/
  spelled_otherwise (account : Address) (listed : account ∈ accounts)
    (missing : (w.find repository.store account).1 = .ok none) :
    account.recordName ∉ names ∧
      ∃ name ∈ names, name ≠ account.recordName ∧ Address.ofRecordName? name = some account
  agree (checksummed : ∀ name ∈ names, ∀ account, Address.ofRecordName? name = some account →
    name = account.recordName) :
    accounts.Nodup ∧ ∀ account ∈ accounts, (w.find repository.store account).1 ≠ .ok none

/-- A key is missing exactly if it is not cached and has no record in checksum case. -/
theorem Wallet.find_missing {store : Keystore σ} {w : Wallet σ} {account : Address} :
    (w.find store account).1 = .ok none ↔
      w.cache.find? account = none ∧ store.get w.records account.recordName = .ok none := by
  unfold find
  cases known : w.cache.find? account with
  | some key => simp
  | none =>
    match stored : store.get w.records account.recordName with
    | .error f => simp
    | .ok none => simp
    | .ok (some key) => simp

/-- Nothing is listed twice unless two names say the same address. -/
theorem nodup_accounts {names : List String} (once : names.Nodup) :
    (names.filterMap Address.ofRecordName?).Nodup ↔
      ∀ name ∈ names, ∀ name' ∈ names, OneSpelling name name' := by
  rw [List.nodup_iff_pairwise_ne, List.pairwise_filterMap]
  constructor
  · intro differ name among name' among'
    refine List.Pairwise.forall_of_forall (R := OneSpelling) ?_ ?_ among among'
    · intro name _ account _ _
      rfl
    · refine differ.imp ?_
      intro name name' differ account means means'
      exact absurd rfl (differ account means account means')
  · intro same
    refine once.imp_of_mem ?_
    rintro name name' among among' differ account means _ means' rfl
    exact differ (same name among name' among' account means means')

namespace Address

def lowerName (account : Address) : String :=
  "wallet-" ++ account.lowerText

theorem ofRecordName?_lowerName (account : Address) :
    ofRecordName? account.lowerName = some account := by
  have shown : account.lowerName.toList = "wallet-".toList ++ account.lowerText.toList :=
    String.toList_append
  have read : parse account.lowerText = .ok account := by
    have unmarked : mixCase [] account.digits = account.digits := by
      cases account.digits <;> rfl
    have parsed := parse_mixCase [] account
    rw [unmarked] at parsed
    exact parsed
  rw [ofRecordName?, shown, if_pos (by simp), List.drop_left, String.ofList_toList, read]
  rfl

end Address

/-- A wallet lists an address once for each record that is named for it in any spelling, and of
these it finds only one in the spelling of its own. Where all names are in that spelling it finds
all that it lists, and lists nothing twice. -/
theorem listed_in_any_spelling (repository : Repository σ) (w : Wallet σ)
    (once : repository.EachOnce w.records) (accounts : List Address)
    (listed : w.list repository.store = .ok accounts) :
    ∃ names, Listing repository w names accounts := by
  obtain ⟨names, shown, rfl⟩ : ∃ names, repository.store.list w.records = .ok names ∧
      names.filterMap Address.ofRecordName? = accounts := by
    rw [Wallet.list] at listed
    cases shown : repository.store.list w.records with
    | error f =>
      rw [shown] at listed
      cases listed
    | ok names =>
      rw [shown] at listed
      cases listed
      exact ⟨names, rfl, rfl⟩
  have names_once := repository.list_once once shown
  have present (account : Address) (among : account.recordName ∈ names) :
      (w.find repository.store account).1 ≠ .ok none := by
    rw [Ne, Wallet.find_missing]
    rintro ⟨-, missing⟩
    exact repository.get_listed once shown among missing
  refine ⟨names, shown, names_once, ?_, nodup_accounts names_once,
    fun _ => Wallet.find_missing, ?_, ?_⟩
  · intro account
    rw [List.count, List.countP_filterMap]
    congr 1
    funext name
    cases Address.ofRecordName? name <;> simp [beq_eq_decide]
  · intro account among missing
    have unnamed : account.recordName ∉ names := fun among => present account among missing
    obtain ⟨name, named, means⟩ := List.mem_filterMap.mp among
    refine ⟨unnamed, name, named, ?_, means⟩
    rintro rfl
    exact unnamed named
  · intro checksummed
    refine ⟨(nodup_accounts names_once).mpr ?_, ?_⟩
    · intro name among name' among' account means means'
      rw [checksummed name among account means, checksummed name' among' account means']
    · intro account among
      obtain ⟨name, named, means⟩ := List.mem_filterMap.mp among
      obtain rfl := checksummed name named account means
      exact present account named

namespace Wallet

variable (account : Address) (key : KeyText)

def lowerCased : Wallet Keystore.Records :=
  .ofRecords [(account.lowerName, key)]

def twiceNamed : Wallet Keystore.Records :=
  .ofRecords [(account.recordName, key), (account.lowerName, key)]

theorem list_lowerCased : (lowerCased account key).list Keystore.memory = .ok [account] := by
  have one : Keystore.sortNames [account.lowerName] = [account.lowerName] := by
    simp [Keystore.sortNames]
  simp [lowerCased, ofRecords, list, Keystore.memory, one, Except.map,
    Address.ofRecordName?_lowerName]

theorem list_twiceNamed :
    (twiceNamed account key).list Keystore.memory = .ok [account, account] := by
  have both := (Keystore.sortNames_perm [account.recordName, account.lowerName]).filterMap
    Address.ofRecordName?
  have shown : [account.recordName, account.lowerName].filterMap Address.ofRecordName? =
      List.replicate 2 account := by
    simp [Address.ofRecordName?_recordName, Address.ofRecordName?_lowerName]
  rw [shown, List.perm_replicate] at both
  simp [twiceNamed, ofRecords, list, Keystore.memory, both, Except.map]

/-- A record that is named in lower case is not looked for. -/
theorem find_lowerCased (differ : account.recordName ≠ account.lowerName) :
    ((lowerCased account key).find Keystore.memory account).1 = .ok none := by
  simp [lowerCased, ofRecords, find, Cache.find?, Keystore.memory, List.lookup_cons,
    beq_false_of_ne differ]

end Wallet

def Address.ofFirstKey : Address :=
  ⟨0x7E5F4552091A69125d5DfCb7b8C2659029395Bdf⟩

theorem Address.ofFirstKey_mixed : ofFirstKey.recordName ≠ ofFirstKey.lowerName := by
  rw [recordName, text, mixedDigits, Hash.Keccak.hash_short (by decide)]
  decide +kernel

/-- Two records for one address are two entries of the listing. -/
theorem twice_named_twice_listed :
    let account := Address.ofFirstKey
    let w := Wallet.twiceNamed account ⟨"ab"⟩
    Repository.memory.EachOnce w.records ∧ w.list Keystore.memory = .ok [account, account] ∧
      ∃ names, Listing .memory w names [account, account] := by
  intro account w
  have once : Repository.memory.EachOnce w.records := by
    change [account.recordName, account.lowerName].Nodup
    simp [account, Address.ofFirstKey_mixed]
  have listed := Wallet.list_twiceNamed account ⟨"ab"⟩
  exact ⟨once, listed, listed_in_any_spelling .memory w once _ listed⟩

/-- An address whose only record is named in lower case is listed and not found, and one with two
records is listed twice. -/
theorem listed_and_missed :
    let account := Address.ofFirstKey
    let w := Wallet.lowerCased account ⟨"ab"⟩
    w.list Keystore.memory = .ok [account] ∧ (w.find Keystore.memory account).1 = .ok none ∧
      (Wallet.twiceNamed account ⟨"ab"⟩).list Keystore.memory = .ok [account, account] := by
  intro account w
  exact ⟨Wallet.list_lowerCased account _,
    Wallet.find_lowerCased account _ Address.ofFirstKey_mixed,
    Wallet.list_twiceNamed account _⟩

end ProviderWallet
