import ProviderWallet.Address
import ProviderWallet.Json.Writer

namespace ProviderWallet

structure Row where
  address : String
  balance : String
  nonce : Option UInt64
  collateral : Option String
  frozen : Option String
  error : Option String
  deriving DecidableEq, Repr

namespace Row

def blank (account : Address) : Row :=
  ⟨account.text, "", none, none, none, none⟩

def withError (row : Row) (f : Failure) : Row :=
  { row with
    error := some (match row.error with
      | none => f.message
      | some told => told ++ "; " ++ f.message) }

def json (row : Row) : Json :=
  .sorted
    [("address", .string row.address), ("balance", .string row.balance),
     ("nonce", Json.ofOption (fun n => .ofNat n.toNat) row.nonce),
     ("collateral", Json.ofOption .string row.collateral),
     ("escrow", Json.ofOption .string row.frozen),
     ("error", Json.ofOption .string row.error)]

end Row

end ProviderWallet
