import Mathlib.Data.List.Induction
import ProviderWallet.Proofs.SignedDigest

namespace ProviderWallet

namespace Bytes

theorem toNat_lt (bytes : Bytes) : toNat bytes < Nat.pow 256 bytes.length := by
  induction bytes using List.reverseRecOn with
  | nil => exact Nat.one_pos
  | append_singleton bytes b ih =>
    have small := b.toNat_lt
    have more : Nat.pow 256 (bytes.length + 1) = Nat.pow 256 bytes.length * 256 := rfl
    rw [toNat_append_singleton, List.length_append, List.length_singleton, more]
    omega

/-- Reading a number and writing it in as many bytes gives the bytes. -/
theorem ofNat_toNat (bytes : Bytes) : ofNat bytes.length (toNat bytes) = bytes := by
  induction bytes using List.reverseRecOn with
  | nil => rfl
  | append_singleton bytes b ih =>
    have small := b.toNat_lt
    have front : (toNat bytes * 256 + b.toNat) / 256 = toNat bytes := by omega
    have last : UInt8.ofNat (toNat bytes * 256 + b.toNat) = b := by
      rw [← UInt8.toNat_inj, UInt8.toNat_ofNat']
      omega
    rw [toNat_append_singleton, List.length_append, List.length_singleton, ofNat, front, last, ih]

end Bytes

namespace Signature

def form (r s : Nat) (v : UInt8) : Bytes :=
  Bytes.ofNat 32 r ++ Bytes.ofNat 32 s ++ [v]

inductive IsMark : UInt8 → Bool → Prop where
  | zero : IsMark 0 false
  | one : IsMark 1 true
  | even : IsMark 27 false
  | odd : IsMark 28 true

def IsChainMark (v : UInt8) (odd : Bool) : Prop :=
  ∃ chain : Nat, v.toNat = 35 + 2 * chain + odd.toNat

def Tells (v : UInt8) (odd : Bool) : Prop :=
  IsMark v odd ∨ IsChainMark v odd

theorem isMark_iff {v : UInt8} {odd : Bool} :
    IsMark v odd ↔ v.toNat = odd.toNat ∨ v.toNat = 27 + odd.toNat := by
  constructor
  · rintro (_ | _ | _ | _)
    · exact .inl rfl
    · exact .inl rfl
    · exact .inr rfl
    · exact .inr rfl
  · cases odd with
    | false =>
      rintro (zero | even)
      · obtain rfl : v = 0 := UInt8.toNat_inj.mp zero
        exact .zero
      · obtain rfl : v = 27 := UInt8.toNat_inj.mp even
        exact .even
    | true =>
      rintro (one | odd)
      · obtain rfl : v = 1 := UInt8.toNat_inj.mp one
        exact .one
      · obtain rfl : v = 28 := UInt8.toNat_inj.mp odd
        exact .odd

theorem isChainMark_iff {v : UInt8} {odd : Bool} :
    IsChainMark v odd ↔ 35 ≤ v.toNat ∧ (v.toNat - 35) % 2 = odd.toNat := by
  have small := odd.toNat_le
  constructor
  · rintro ⟨chain, carries⟩
    omega
  · rintro ⟨high, parity⟩
    exact ⟨(v.toNat - 35) / 2, by omega⟩

/-- The rule for the last byte, told in numbers. -/
theorem parity?_eq (v : UInt8) : parity? v =
    if v.toNat = 0 ∨ v.toNat = 27 then some false
    else if v.toNat = 1 ∨ v.toNat = 28 then some true
    else if 35 ≤ v.toNat then some (decide ((v.toNat - 35) % 2 = 1))
    else none := by
  have above : 35 ≤ v ↔ 35 ≤ v.toNat := Iff.rfl
  have number (n : UInt8) : v = n ↔ v.toNat = n.toNat := UInt8.toNat_inj.symm
  have parity (high : 35 ≤ v) : (v - 35) % 2 = 1 ↔ (v.toNat - 35) % 2 = 1 := by
    rw [← UInt8.toNat_inj, UInt8.toNat_mod, UInt8.toNat_sub_of_le _ _ high]
    rfl
  rw [parity?]
  by_cases high : 35 ≤ v
  · simp only [number, above, parity high]
    rfl
  · simp only [number, if_neg high, if_neg (above.not.mp high)]
    rfl

theorem parity?_eq_some {v : UInt8} {odd : Bool} : parity? v = some odd ↔ Tells v odd := by
  rw [Tells, isMark_iff, isChainMark_iff, parity?_eq]
  cases odd with
  | false =>
    rw [Bool.toNat_false]
    split_ifs <;> simp <;> omega
  | true =>
    rw [Bool.toNat_true]
    split_ifs <;> simp <;> omega

section

variable {bytes : Bytes} {r s : Nat} {v : UInt8}

theorem length_form (r s : Nat) (v : UInt8) : (form r s v).length = 65 := by
  simp [form, Bytes.length_ofNat]

/-- What is read from two numbers and a last byte. -/
theorem ofBytes?_form (r s : Nat) (v : UInt8) :
    ofBytes? (form r s v) = (parity? v).map fun odd =>
      ⟨Bytes.toNat (Bytes.ofNat 32 r), Bytes.toNat (Bytes.ofNat 32 s), odd⟩ := by
  have size := Bytes.length_ofNat 32
  have front : (form r s v).take 32 = Bytes.ofNat 32 r := by
    rw [form, List.append_assoc]
    exact List.take_left' (size r)
  have rest : (form r s v).drop 32 = Bytes.ofNat 32 s ++ [v] := by
    rw [form, List.append_assoc]
    exact List.drop_left' (size r)
  have middle : ((form r s v).drop 32).take 32 = Bytes.ofNat 32 s := by
    rw [rest]
    exact List.take_left' (size s)
  have last : (form r s v).getD 64 0 = v := by
    simp [form, List.getD_eq_getElem?_getD, size]
  rw [ofBytes?, if_pos (length_form r s v), front, middle, last]

/-- Any 65 bytes are two numbers and a last byte. -/
theorem exists_form (size : bytes.length = 65) :
    ∃ r s v, r < Nat.pow 256 32 ∧ s < Nat.pow 256 32 ∧ bytes = form r s v := by
  have first : (bytes.take 32).length = 32 := by simp [size]
  have second : ((bytes.drop 32).take 32).length = 32 := by simp [size]
  have small := Bytes.toNat_lt (bytes.take 32)
  have small' := Bytes.toNat_lt ((bytes.drop 32).take 32)
  have back := Bytes.ofNat_toNat (bytes.take 32)
  have back' := Bytes.ofNat_toNat ((bytes.drop 32).take 32)
  rw [first] at small back
  rw [second] at small' back'
  obtain ⟨v, last⟩ : ∃ v, bytes.drop 64 = [v] :=
    List.length_eq_one_iff.mp (by simp [size])
  refine ⟨_, _, v, small, small', ?_⟩
  have rest := List.take_append_drop 32 (bytes.drop 32)
  rw [List.drop_drop] at rest
  rw [form, back, back', ← last, List.append_assoc, rest, List.take_append_drop]

theorem ofBytes?_eq_some {signature : Signature} :
    ofBytes? bytes = some signature ↔ ∃ v, signature.r < Nat.pow 256 32 ∧
      signature.s < Nat.pow 256 32 ∧ bytes = form signature.r signature.s v ∧
        Tells v signature.odd := by
  constructor
  · intro read
    have size : bytes.length = 65 := by
      by_contra other
      rw [ofBytes?, if_neg other] at read
      cases read
    obtain ⟨r, s, v, first, second, written⟩ := exists_form size
    rw [written, ofBytes?_form, Bytes.toNat_ofNat first, Bytes.toNat_ofNat second] at read
    obtain ⟨odd, tells, rfl⟩ := Option.map_eq_some_iff.mp read
    exact ⟨v, first, second, written, parity?_eq_some.mp tells⟩
  · rintro ⟨v, first, second, written, tells⟩
    rw [written, ofBytes?_form, Bytes.toNat_ofNat first, Bytes.toNat_ofNat second,
      parity?_eq_some.mpr tells]
    rfl

end

/-- The bytes are a signature of a message by an account, with a last byte of some kind. -/
def SignedBy (account : Address) (message : Bytes) (mark : UInt8 → Bool → Prop) (bytes : Bytes) :
    Prop :=
  ∃ r s v odd, r < Nat.pow 256 32 ∧ s < Nat.pow 256 32 ∧ bytes = form r s v ∧ mark v odd ∧
    (⟨r, s, odd⟩ : Signature).signer? (Hash.Keccak.hash message) = some account

variable {account : Address} {message : Bytes}

/-- Bytes verify if a signature is read from them and the account is recovered from it. -/
theorem verify_iff {bytes : Bytes} : verify account bytes message = true ↔
    ∃ s, ofBytes? bytes = some s ∧ s.signer? (Hash.Keccak.hash message) = some account := by
  rw [verify]
  cases ofBytes? bytes with
  | none => simp
  | some s => simp

/-- They do so with every last byte that tells the parity. -/
theorem verify_iff_signedBy {bytes : Bytes} :
    verify account bytes message = true ↔ SignedBy account message Tells bytes := by
  rw [verify_iff]
  constructor
  · rintro ⟨⟨r, s, odd⟩, read, signer⟩
    obtain ⟨v, first, second, written, tells⟩ := ofBytes?_eq_some.mp read
    exact ⟨r, s, v, odd, first, second, written, tells, signer⟩
  · rintro ⟨r, s, v, odd, first, second, written, tells, signer⟩
    exact ⟨⟨r, s, odd⟩, ofBytes?_eq_some.mpr ⟨v, first, second, written, tells⟩, signer⟩

theorem signedBy_tells {bytes : Bytes} : SignedBy account message Tells bytes ↔
    SignedBy account message IsMark bytes ∨ SignedBy account message IsChainMark bytes := by
  constructor
  · rintro ⟨r, s, v, odd, first, second, written, mark | mark, signer⟩
    · exact .inl ⟨r, s, v, odd, first, second, written, mark, signer⟩
    · exact .inr ⟨r, s, v, odd, first, second, written, mark, signer⟩
  · rintro (⟨r, s, v, odd, first, second, written, mark, signer⟩ |
      ⟨r, s, v, odd, first, second, written, mark, signer⟩)
    · exact ⟨r, s, v, odd, first, second, written, .inl mark, signer⟩
    · exact ⟨r, s, v, odd, first, second, written, .inr mark, signer⟩

/-- The bytes verify if they are a signature with one of the four last bytes that are meant, or with
one that carries the id of a chain, and not otherwise. Of the last byte only the parity counts. -/
theorem verified_by_parity_of_last_byte (account : Address) (message : Bytes) :
    (∀ bytes, verify account bytes message = true ↔
      SignedBy account message IsMark bytes ∨ SignedBy account message IsChainMark bytes) ∧
    ∀ r s v v' odd, Tells v odd → Tells v' odd →
      verify account (form r s v) message = verify account (form r s v') message := by
  constructor
  · intro bytes
    rw [verify_iff_signedBy, signedBy_tells]
  · intro r s v v' odd tells tells'
    rw [verify, verify, ofBytes?_form, ofBytes?_form, parity?_eq_some.mpr tells,
      parity?_eq_some.mpr tells']

def helloFirst : Nat :=
  0x433ec3d37e4f1253df15e2dea412fed8e915737730f74b3dfb1353268f932ef5

def helloSecond : Nat :=
  0x557c9158e0b34bce39de28d11797b42e9b1acb2749230885fe075aedc3e491a4

def helloSigner : Address :=
  ⟨0x7E5F4552091A69125d5DfCb7b8C2659029395Bdf⟩

theorem signer?_hello : (⟨helloFirst, helloSecond, false⟩ : Signature).signer?
    (Hash.Keccak.hash (Bytes.ofText "hello")) = some helloSigner := by
  have recovered : Curve.Ecdsa.recover ⟨helloFirst, helloSecond, false⟩
      (Hash.Keccak.hashShort (Bytes.ofText "hello")) = some Curve.Secp256k1.generator := by
    decide +kernel
  have account : Address.ofPoint Curve.Secp256k1.generator = helloSigner := by
    rw [Curve.Secp256k1.generator, Address.ofPoint, Hash.Keccak.hash_short (by decide)]
    decide +kernel
  rw [signer?_def]
  beta_reduce
  rw [Hash.Keccak.hash_short (by decide), recovered, ← account]
  rfl

/-- A signature of the text hello verifies with whatever last byte tells its parity. -/
theorem verify_hello {v : UInt8} (tells : Tells v false) :
    verify helloSigner (form helloFirst helloSecond v) (Bytes.ofText "hello") = true := by
  refine verify_iff_signedBy.mpr ⟨_, _, v, false, ?_, ?_, rfl, tells, signer?_hello⟩
  · decide
  · decide

/-- A signature verifies alike with its own last byte and with one that carries the id 0. -/
theorem hello_verified_either_way :
    Tells 27 false ∧ Tells 35 false ∧
      verify helloSigner (form helloFirst helloSecond 27) (Bytes.ofText "hello") =
        verify helloSigner (form helloFirst helloSecond 35) (Bytes.ofText "hello") := by
  have own : Tells 27 false := .inl .even
  have other : Tells 35 false := .inr ⟨0, rfl⟩
  obtain ⟨-, alike⟩ := verified_by_parity_of_last_byte helloSigner (Bytes.ofText "hello")
  exact ⟨own, other, alike helloFirst helloSecond 27 35 false own other⟩

/-- The bytes verify, and their last byte is none of those that are meant. -/
theorem chain_mark_verified :
    verify helloSigner (form helloFirst helloSecond 35) (Bytes.ofText "hello") = true ∧
      ¬ SignedBy helloSigner (Bytes.ofText "hello") IsMark (form helloFirst helloSecond 35) := by
  refine ⟨verify_hello (.inr ⟨0, rfl⟩), ?_⟩
  rintro ⟨r, s, v, odd, -, -, written, mark, -⟩
  have last := congrArg List.getLast? written
  rw [form, form, List.getLast?_concat, List.getLast?_concat] at last
  obtain rfl := Option.some.inj last
  nomatch mark

end Signature

end ProviderWallet
