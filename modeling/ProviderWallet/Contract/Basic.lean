import ProviderWallet.Abi

namespace ProviderWallet.Contract

structure Invocation where
  name : String
  arguments : List Abi.Value
  deriving DecidableEq, Repr

namespace Invocation

def signature (i : Invocation) : String :=
  i.name ++ "(" ++ String.intercalate "," (i.arguments.map fun v => v.ty.name) ++ ")"

def selector (i : Invocation) : Bytes :=
  (Hash.Keccak.hash (Bytes.ofText i.signature)).take 4

def input (i : Invocation) : Bytes :=
  i.selector ++ Abi.encode i.arguments

end Invocation

end ProviderWallet.Contract
