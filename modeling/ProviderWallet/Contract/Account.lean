import ProviderWallet.Contract.Basic
import ProviderWallet.Json.Basic
import ProviderWallet.Quantity

namespace ProviderWallet.Contract.Account

def changeAddresses (addresses : List String) : Invocation :=
  ⟨"changeMultiaddrs", [.texts addresses]⟩

def changeOwner (owner : Address) : Invocation :=
  ⟨"changeOwnerAddress", [.address owner]⟩

def changeBeneficiary (beneficiary : Address) (quota expiration : Wei) : Invocation :=
  ⟨"changeBeneficiary", [.address beneficiary, .uint256 quota, .uint256 expiration]⟩

def changeFlag (flag : UInt8) : Invocation :=
  ⟨"changeUbiFlag", [.uint8 flag]⟩

def submitProof (task : String) (taskType : UInt8) (proofType proof : String) : Invocation :=
  ⟨"submitUBIProof", [.text task, .uint8 taskType, .text proofType, .text proof]⟩

def state : Invocation :=
  ⟨"getAccount", []⟩

structure State where
  owner : Address
  node : String
  addresses : List String
  flag : UInt8
  beneficiary : Address
  quota : Wei
  expiration : Wei
  deriving DecidableEq, Repr

def readState? (data : Bytes) : Option State :=
  match Abi.decode [.address, .text, .texts, .uint8, .address, .uint256, .uint256] data with
  | some [.address owner, .text node, .texts addresses, .uint8 flag, .address beneficiary,
      .uint256 quota, .uint256 expiration] =>
    some ⟨owner, node, addresses, flag, beneficiary, quota, expiration⟩
  | _ => none

def State.json (s : State) : Json :=
  .object
    [("owner_address", .string s.owner.text), ("node_id", .string s.node),
     ("multi_addresses", .array (s.addresses.map .string)), ("ubi_flag", .ofNat s.flag.toNat),
     ("beneficiary", .object
       [("address", .string s.beneficiary.text), ("quota", .string (Quantity.marked s.quota.toNat)),
        ("expiration", .string (Quantity.marked s.expiration.toNat))])]

end ProviderWallet.Contract.Account
