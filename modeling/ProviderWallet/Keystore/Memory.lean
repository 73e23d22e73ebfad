import ProviderWallet.Keystore.Basic

namespace ProviderWallet.Keystore

abbrev Records := List (String × KeyText)

def sortNames (names : List String) : List String :=
  names.mergeSort fun a b => a ≤ b

def memory : Keystore Records where
  get records name := .ok (records.lookup name)
  put _ records name key :=
    match records.lookup name with
    | some _ => (.error (.alreadyExists name), records)
    | none => (.ok (), (name, key) :: records)
  delete records name :=
    match records.lookup name with
    | some _ => (.ok (), records.filter (·.1 ≠ name))
    | none => (.error (.keystore "delete" ("record " ++ name ++ " not found")), records)
  list records := .ok (sortNames (records.map Prod.fst))

end ProviderWallet.Keystore
