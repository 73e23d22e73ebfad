import Mathlib.Data.List.Nodup
import ProviderWallet.Contract.Basic
import ProviderWallet.Proofs.QuickDigest

namespace ProviderWallet.Contract

structure Declaration where
  name : String
  parameters : List Abi.Ty
  deriving DecidableEq, Repr

namespace Declaration

def signature (d : Declaration) : String :=
  d.name ++ "(" ++ String.intercalate "," (d.parameters.map Abi.Ty.name) ++ ")"

def selectorOf (signature : String) : Bytes :=
  (Hash.Keccak.hash (Bytes.ofText signature)).take 4

def selector (d : Declaration) : Bytes :=
  selectorOf d.signature

/-- All functions that change a contract. Two of the contracts declare the same withdrawal. -/
def all : List Declaration :=
  [⟨"deposit", [.address]⟩,
   ⟨"withdraw", [.address, .uint256]⟩,
   ⟨"deposit", [.address, .uint256]⟩,
   ⟨"approve", [.address, .uint256]⟩,
   ⟨"transfer", [.address, .uint256]⟩,
   ⟨"changeMultiaddrs", [.texts]⟩,
   ⟨"changeOwnerAddress", [.address]⟩,
   ⟨"changeBeneficiary", [.address, .uint256, .uint256]⟩,
   ⟨"changeUbiFlag", [.uint8]⟩,
   ⟨"submitUBIProof", [.text, .uint8, .text, .text]⟩]

theorem all_signatures : all.map signature =
    ["deposit(address)", "withdraw(address,uint256)", "deposit(address,uint256)",
     "approve(address,uint256)", "transfer(address,uint256)", "changeMultiaddrs(string[])",
     "changeOwnerAddress(address)", "changeBeneficiary(address,uint256,uint256)",
     "changeUbiFlag(uint8)", "submitUBIProof(string,uint8,string,string)"] := by
  decide

/-- With short signatures one block is enough for each digest. -/
theorem map_selector {ds : List Declaration}
    (short : ∀ s ∈ ds.map signature, (Bytes.ofText s).length < Hash.Keccak.rate) :
    ds.map selector =
      (ds.map signature).map fun s => (Hash.Keccak.hashShort (Bytes.ofText s)).take 4 := by
  have composed : selector = selectorOf ∘ signature := rfl
  rw [composed, ← List.map_map]
  refine List.map_congr_left fun s among => ?_
  rw [selectorOf, Hash.Keccak.hash_short (short s among)]

/-- The bytes that stand for the functions, in the order of the list. -/
theorem all_selectors : all.map selector =
    [[0xf3, 0x40, 0xfa, 0x01], [0xf3, 0xfe, 0xf3, 0xa3], [0x47, 0xe7, 0xef, 0x24],
     [0x09, 0x5e, 0xa7, 0xb3], [0xa9, 0x05, 0x9c, 0xbb], [0x94, 0xf2, 0x19, 0x38],
     [0x85, 0xea, 0xc0, 0x5f], [0xee, 0x2c, 0x5e, 0x89], [0x65, 0x53, 0xb6, 0xef],
     [0x77, 0xec, 0xf4, 0xdf]] := by
  rw [map_selector, all_signatures]
  · decide +kernel
  · rw [all_signatures]
    decide

/-- No two of the functions share the bytes that stand for them. -/
theorem eq_of_selector_eq {d e : Declaration} (hd : d ∈ all) (he : e ∈ all)
    (same : d.selector = e.selector) : d = e := by
  have nodup : (all.map selector).Nodup := by
    rw [all_selectors]
    decide
  exact List.inj_on_of_nodup_map nodup hd he same

theorem length_selector {d : Declaration} (hd : d ∈ all) : d.selector.length = 4 := by
  have among := List.mem_map_of_mem hd (f := selector)
  rw [all_selectors] at among
  revert among
  generalize d.selector = bytes
  revert bytes
  decide

def views : List Declaration :=
  [⟨"balanceOf", [.address]⟩, ⟨"balances", [.address]⟩, ⟨"cpInfo", [.address]⟩]

theorem views_selectors : views.map selector =
    [[0x70, 0xa0, 0x82, 0x31], [0x27, 0xe2, 0x35, 0xe3], [0xa6, 0x64, 0xc2, 0x16]] := by
  have signatures : views.map signature =
      ["balanceOf(address)", "balances(address)", "cpInfo(address)"] := by
    decide
  rw [map_selector, signatures]
  · decide +kernel
  · rw [signatures]
    decide

end Declaration

namespace Invocation

def declaration (i : Invocation) : Declaration :=
  ⟨i.name, i.arguments.map Abi.Value.ty⟩

theorem selector_eq (i : Invocation) : i.selector = i.declaration.selector := by
  simp [selector, signature, declaration, Declaration.selector, Declaration.selectorOf,
    Declaration.signature, Function.comp_def]

variable {i j : Invocation}

/-- An input tells which function is called. -/
theorem declaration_eq (hi : i.declaration ∈ Declaration.all) (hj : j.declaration ∈ Declaration.all)
    (same : i.input = j.input) : i.declaration = j.declaration := by
  have sizes : i.selector.length = j.selector.length := by
    rw [selector_eq, selector_eq, Declaration.length_selector hi, Declaration.length_selector hj]
  have first := (List.append_inj same sizes).1
  rw [selector_eq, selector_eq] at first
  exact Declaration.eq_of_selector_eq hi hj first

end Invocation

end ProviderWallet.Contract
