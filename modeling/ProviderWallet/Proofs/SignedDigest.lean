import Mathlib.Tactic.DefEqTransformations
import ProviderWallet.Proofs.QuickDigest
import ProviderWallet.Signature

namespace ProviderWallet

open Curve.Secp256k1 (generator)

namespace Curve.Ecdsa

open Secp256k1 (generator order)

theorem signWith_small {secret digest k : Nat} {s : Signature}
    (signed : signWith secret digest k = some s) : s.r < order ∧ s.s < order := by
  have positive : 0 < order := by decide
  unfold signWith at signed
  split at signed
  · cases signed
  · split at signed
    · cases signed
    · rename_i x y point
      have r := Nat.mod_lt x positive
      have t := Nat.mod_lt
        (Secp256k1.inverseMod order k * (digest + x % order * secret)) positive
      dsimp only at signed
      split at signed
      · cases signed
      · rename_i nonzero
        split at signed
        · cases signed
          refine ⟨r, ?_⟩
          change order - _ < order
          omega
        · cases signed
          exact ⟨r, t⟩

theorem search_small {secret digest attempts : Nat} {g : Drbg} {s : Signature}
    (found : search secret digest attempts g = some s) : s.r < order ∧ s.s < order := by
  induction attempts generalizing g with
  | zero => cases found
  | succ attempts ih =>
    unfold search at found
    split at found
    rename_i k g' drawn
    split at found
    · rename_i signed
      cases found
      exact signWith_small signed
    · exact ih found

/-- Both numbers of a signature are below the order of the curve. -/
theorem sign_small {secret : Nat} {digest : Bytes} {s : Signature}
    (signed : sign secret digest = some s) : s.r < order ∧ s.s < order := by
  rw [sign] at signed
  exact search_small signed

def firstMultiplier (secret digest : Nat) : Nat :=
  let data := Bytes.ofNat 32 secret ++ Bytes.ofNat 32 digest
  let key := Hash.Sha256.keyedQuick (List.replicate 32 0) (List.replicate 32 1 ++ 0 :: data)
  let value := Hash.Sha256.keyedQuick key (List.replicate 32 1)
  let key' := Hash.Sha256.keyedQuick key (value ++ 1 :: data)
  let value' := Hash.Sha256.keyedQuick key' value
  Bytes.toNat (Hash.Sha256.keyedQuick key' value')

theorem next_seeded (secret digest : Nat) :
    (Drbg.seeded secret digest).next.1 = firstMultiplier secret digest := by
  simp only [Drbg.seeded, Drbg.reseed, Drbg.next, Hash.Sha256.keyed_eq, firstMultiplier]

theorem search_first {secret digest : Nat} {g : Drbg} {s : Signature}
    (signed : signWith secret digest g.next.1 = some s) (attempts : Nat) :
    search secret digest (attempts + 1) g = some s := by
  unfold search
  split
  rename_i k g' drawn
  rw [drawn] at signed
  rw [signed]

/-- A digest is signed with the first multiplier if that can be used. -/
theorem sign_first {secret : Nat} {digest : Bytes} {s : Signature}
    (signed : signWith secret (Bytes.toNat digest % order)
      (firstMultiplier secret (Bytes.toNat digest % order)) = some s) :
    sign secret digest = some s := by
  rw [← next_seeded] at signed
  rw [sign]
  exact search_first signed 127

end Curve.Ecdsa

namespace Signature

theorem length_bytes (s : Signature) : s.bytes.length = 65 := by
  simp [bytes, Bytes.length_ofNat]

/-- A signature survives being written and read again. -/
theorem ofBytes?_bytes {s : Signature} (first : s.r < Nat.pow 256 32)
    (second : s.s < Nat.pow 256 32) : ofBytes? s.bytes = some s := by
  have r : s.bytes.take 32 = Bytes.ofNat 32 s.r := by
    rw [bytes, List.append_assoc]
    exact List.take_left' (Bytes.length_ofNat 32 s.r)
  have rest : s.bytes.drop 32 = Bytes.ofNat 32 s.s ++ [if s.odd then 28 else 27] := by
    rw [bytes, List.append_assoc]
    exact List.drop_left' (Bytes.length_ofNat 32 s.r)
  have t : (s.bytes.drop 32).take 32 = Bytes.ofNat 32 s.s := by
    rw [rest]
    exact List.take_left' (Bytes.length_ofNat 32 s.s)
  have last : s.bytes.getD 64 0 = if s.odd then 28 else 27 := by
    simp [bytes, List.getD_eq_getElem?_getD, Bytes.length_ofNat]
  rw [ofBytes?, if_pos s.length_bytes, r, t, last, Bytes.toNat_ofNat first,
    Bytes.toNat_ofNat second]
  cases odd : s.odd with
  | false => simp [parity?, ← odd]
  | true => simp [parity?, ← odd]

end Signature

-- An equation of functions: of the results the checker would try to compute them.
theorem SecretKey.signDigest_def : SecretKey.signDigest = fun key digest =>
    match Curve.Ecdsa.sign key.scalar digest with
    | some s => .ok s
    | none => .error (.signing "signature error") := rfl

theorem SecretKey.signDigest_small {secret : SecretKey} {digest : Bytes} {s : Signature}
    (signed : secret.signDigest digest = .ok s) :
    s.r < Nat.pow 256 32 ∧ s.s < Nat.pow 256 32 := by
  have fits : Curve.Secp256k1.order < Nat.pow 256 32 := by decide
  rw [signDigest_def] at signed
  beta_reduce at signed
  generalize found : Curve.Ecdsa.sign secret.scalar digest = result at signed
  cases result with
  | none => cases signed
  | some s' =>
    cases signed
    obtain ⟨first, second⟩ := Curve.Ecdsa.sign_small found
    exact ⟨Nat.lt_trans first fits, Nat.lt_trans second fits⟩

/-- What is expected of signatures: that the digest can be signed with the key, and that the account
of the key is recovered from its signature. -/
def SecretKey.Recoverable (secret : SecretKey) (digest : Bytes) : Prop :=
  ∃ s, secret.signDigest digest = .ok s ∧ s.signer? digest = some secret.address

/-- The account of the key is recovered from whatever it has signed. -/
theorem SecretKey.Recoverable.signer?_eq {secret : SecretKey} {digest : Bytes} {s : Signature}
    (h : secret.Recoverable digest) (signed : secret.signDigest digest = .ok s) :
    s.signer? digest = some secret.address := by
  obtain ⟨s', signed', recovered⟩ := h
  obtain rfl := Except.ok.inj (signed.symm.trans signed')
  exact recovered

instance (secret : SecretKey) (digest : Bytes) : Decidable (secret.Recoverable digest) :=
  decidable_of_iff
    ((secret.signDigest digest).toOption.bind (·.signer? digest) = some secret.address) <| by
      rw [SecretKey.Recoverable]
      generalize secret.signDigest digest = signed
      cases signed with
      | error f => simp [Except.toOption]
      | ok s => simp [Except.toOption]

theorem SecretKey.address_def :
    SecretKey.address = fun key => Address.ofPoint (generator.scale key.scalar) := rfl

theorem Signature.signer?_def :
    Signature.signer? = fun s digest => (Curve.Ecdsa.recover s digest).map Address.ofPoint := rfl

/-- It is enough that the public key is recovered from the signature with the first multiplier. -/
theorem SecretKey.Recoverable.of_point {secret : SecretKey} {digest : Bytes}
    (h : (Curve.Ecdsa.signWith secret.scalar (Bytes.toNat digest % Curve.Secp256k1.order)
        (Curve.Ecdsa.firstMultiplier secret.scalar
          (Bytes.toNat digest % Curve.Secp256k1.order))).bind (Curve.Ecdsa.recover · digest) =
      some (generator.scale secret.scalar)) : secret.Recoverable digest := by
  obtain ⟨s, signed, recovered⟩ := Option.bind_eq_some_iff.mp h
  refine ⟨s, ?_, ?_⟩
  · rw [signDigest_def]
    beta_reduce
    rw [Curve.Ecdsa.sign_first signed]
  · rw [Signature.signer?_def, address_def]
    beta_reduce
    rw [recovered]
    rfl

def samplePayload : Bytes :=
  [2, 0xf8, 92, 1, 7, 2, 3, 130, 82, 8, 148] ++ List.replicate 19 0 ++ [5, 128, 184, 60] ++
    List.replicate 60 9 ++ [192]

/-- What is expected of signatures holds of the key whose scalar is 1 and a sample. -/
theorem SecretKey.recoverable_sample :
    (⟨1, by decide, by decide⟩ : SecretKey).Recoverable (Hash.Keccak.hash samplePayload) := by
  rw [Hash.Keccak.hash_short (by decide)]
  apply Recoverable.of_point
  decide +kernel

/-- A signature verifies for the account that it is recovered to, and for no other. -/
theorem SecretKey.verify_signed {secret : SecretKey} {message : Bytes} {s : Signature}
    (signed : secret.signDigest (Hash.Keccak.hash message) = .ok s) (account : Address) :
    Signature.verify account s.bytes message = true ↔
      s.signer? (Hash.Keccak.hash message) = some account := by
  obtain ⟨first, second⟩ := signDigest_small signed
  rw [Signature.verify, Signature.ofBytes?_bytes first second]
  exact decide_eq_true_iff

end ProviderWallet
