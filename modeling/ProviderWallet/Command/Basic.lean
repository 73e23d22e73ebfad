import ProviderWallet.Collateral

namespace ProviderWallet

inductive Command.Change where
  | owner (account : String)
  | beneficiary (account quota expiration : String)
  | addresses (addresses : List String)
  | flag (flag : UInt8)
  | proof (task : String) (taskType : UInt8) (proofType content : String)
  deriving DecidableEq, Repr

/-- What the user may ask for. Addresses and amounts are as they were written, and whether they make
sense is found out when the command is carried out. -/
inductive Command where
  | newKey
  | listKeys (inTokens : Bool)
  /-- Store a key that stands in a file or else in the standard input. -/
  | importKey (path : Option String)
  | revealKey (account : String)
  | deleteKey (account : String) (isCertain : Bool)
  | sign (account message : String)
  | verify (account signature message : String)
  | send (sender recipient amount : String)
  | addCollateral (sender amount : String) (kind : Collateral.Kind)
  | withdrawCollateral (owner amount : String) (kind : Collateral.Kind)
  | sendCollateral (sender recipient amount : String)
  | listCollateral (kind : Collateral.Kind)
  | showAccount
  | changeAccount (signer : String) (change : Command.Change)
  deriving DecidableEq, Repr

structure Command.Settings where
  /-- The chain to use instead of the one that is configured. -/
  chain : Option String
  json : Bool
  deriving DecidableEq, Repr

end ProviderWallet
