import ProviderWallet.Keystore.Basic
import ProviderWallet.Signature

namespace ProviderWallet

def Address.recordName (account : Address) : String :=
  "wallet-" ++ account.text

/-- The address that a record is named for, if it is the record of a wallet. -/
def Address.ofRecordName? (name : String) : Option Address :=
  let mark := "wallet-".toList
  if mark.isPrefixOf name.toList then
    (Address.parse (String.ofList (name.toList.drop mark.length))).toOption
  else none

abbrev Cache := List (Address × KeyText)

namespace Cache

def find? (cache : Cache) (account : Address) : Option KeyText :=
  cache.lookup account

def insert (cache : Cache) (account : Address) (key : KeyText) : Cache :=
  (account, key) :: cache.filter (·.1 ≠ account)

def erase (cache : Cache) (account : Address) : Cache :=
  cache.filter (·.1 ≠ account)

end Cache

/-- A cache together with the records behind it. The cache holds keys that were read or stored; that
no key was found is not remembered. -/
structure Wallet (σ : Type) where
  cache : Cache
  records : σ

namespace Wallet

variable {σ : Type}

def ofRecords (records : σ) : Wallet σ :=
  ⟨[], records⟩

def find (store : Keystore σ) (account : Address) (w : Wallet σ) :
    Except Failure (Option KeyText) × Wallet σ :=
  match w.cache.find? account with
  | some key => (.ok (some key), w)
  | none =>
    match store.get w.records account.recordName with
    | .error f => (.error f, w)
    | .ok none => (.ok none, w)
    | .ok (some key) => (.ok (some key), { w with cache := w.cache.insert account key })

def require (store : Keystore σ) (task : String) (account : Address) (w : Wallet σ) :
    Except Failure KeyText × Wallet σ :=
  match w.find store account with
  | (.error f, w) => (.error f, w)
  | (.ok none, w) => (.error (.keyNotFound account.text task), w)
  | (.ok (some key), w) => (.ok key, w)

def reveal (store : Keystore σ) (account : Address) (w : Wallet σ) :
    Except Failure KeyText × Wallet σ :=
  w.require store "export" account

def sign (store : Keystore σ) (account : Address) (message : Bytes) (w : Wallet σ) :
    Except Failure String × Wallet σ :=
  match w.require store "sign" account with
  | (.error f, w) => (.error f, w)
  | (.ok key, w) =>
    (do let secret ← key.secret
        return Text.Hex.encodeMarked (← secret.signMessage message), w)

def isTaken (store : Keystore σ) (account : Address) (w : Wallet σ) : Except Failure Bool :=
  if (w.cache.find? account).isSome then .ok true
  else (store.get w.records account.recordName).map Option.isSome

def namingAddress (account : Address) : Failure → Failure
  | .alreadyExists _ => .alreadyExists account.text
  | f => f

/-- Stores a key as it is given. An address has one key at most. -/
def importKey (store : Keystore σ) (fresh : Fresh) (key : KeyText) (w : Wallet σ) :
    Except Failure Address × Wallet σ :=
  match key.address with
  | .error f => (.error f, w)
  | .ok account =>
    match w.isTaken store account with
    | .error f => (.error f, w)
    | .ok true => (.error (.alreadyExists account.text), w)
    | .ok false =>
      match store.put fresh w.records account.recordName key with
      | (.error f, records) => (.error (namingAddress account f), { w with records })
      | (.ok (), records) => (.ok account, ⟨w.cache.insert account key, records⟩)

def generate (store : Keystore σ) (fresh : Fresh) (secret : SecretKey) (w : Wallet σ) :
    Except Failure Address × Wallet σ :=
  let account := secret.address
  let key : KeyText := ⟨secret.text⟩
  match store.put fresh w.records account.recordName key with
  | (.error f, records) => (.error f, { w with records })
  | (.ok (), records) => (.ok account, ⟨w.cache.insert account key, records⟩)

/-- A failure to delete a record. One that was never seen counts as missing. -/
def whenDeleting (account : Address) (wasCached : Bool) : Failure → Failure
  | .keystore step reason =>
    if wasCached then .keystore step reason else .keyNotFound account.text "delete"
  | f => f

/-- Forgets a key and deletes its record. It is forgotten even if the record cannot be deleted. -/
def delete (store : Keystore σ) (account : Address) (w : Wallet σ) :
    Except Failure Unit × Wallet σ :=
  let (result, records) := store.delete w.records account.recordName
  (result.mapError (whenDeleting account (w.cache.find? account).isSome),
    ⟨w.cache.erase account, records⟩)

/-- The addresses that records are named for, in the order of the names. -/
def list (store : Keystore σ) (w : Wallet σ) : Except Failure (List Address) :=
  (store.list w.records).map (·.filterMap Address.ofRecordName?)

end Wallet

end ProviderWallet
