namespace ProviderWallet

abbrev Bytes := List UInt8

namespace Bytes

def toNat (bytes : Bytes) : Nat :=
  bytes.foldl (fun n b => n * 256 + b.toNat) 0

def ofNat : (width : Nat) → (n : Nat) → Bytes
  | 0, _ => []
  | width + 1, n => ofNat width (n / 256) ++ [UInt8.ofNat n]

/-- The fewest base 256 digits of a number; zero has none. -/
def minimal (n : Nat) : Bytes :=
  if _h : n = 0 then [] else minimal (n / 256) ++ [UInt8.ofNat n]
termination_by n
decreasing_by omega

def littleEndian : (width : Nat) → (n : Nat) → Bytes
  | 0, _ => []
  | width + 1, n => UInt8.ofNat n :: littleEndian width (n / 256)

def ofLittleEndian (bytes : Bytes) : Nat :=
  bytes.foldr (fun b n => b.toNat + 256 * n) 0

def xor (a b : Bytes) : Bytes :=
  List.zipWith (· ^^^ ·) a b

def padRight (width : Nat) (bytes : Bytes) : Bytes :=
  bytes ++ List.replicate ((width - bytes.length % width) % width) 0

def ofText (s : String) : Bytes :=
  s.toUTF8.data.toList

def toText? (bytes : Bytes) : Option String :=
  String.fromUTF8? ⟨bytes.toArray⟩

theorem length_ofNat (width n : Nat) : (ofNat width n).length = width := by
  induction width generalizing n with
  | zero => rfl
  | succ width ih => simp [ofNat, ih]

theorem toNat_append_singleton (bytes : Bytes) (b : UInt8) :
    toNat (bytes ++ [b]) = toNat bytes * 256 + b.toNat := by
  simp [toNat]

/-- Writing a number that fits and reading it back gives the number. -/
theorem toNat_ofNat {width n : Nat} (h : n < Nat.pow 256 width) : toNat (ofNat width n) = n := by
  induction width generalizing n with
  | zero =>
    have : n < 1 := h
    simp [ofNat, toNat]
    omega
  | succ width ih =>
    have hq : n / 256 < Nat.pow 256 width :=
      Nat.div_lt_of_lt_mul (Nat.mul_comm (Nat.pow 256 width) 256 ▸ h)
    rw [ofNat, toNat_append_singleton, ih hq, UInt8.toNat_ofNat']
    omega

/-- A text survives being written to bytes and read again. -/
theorem toText?_ofText (s : String) : toText? (ofText s) = some s := by
  have h : (⟨(ofText s).toArray⟩ : ByteArray) = s.toByteArray := by simp [ofText]
  rw [toText?, h, String.fromUTF8?, dif_pos s.isValidUTF8, String.fromUTF8]

end Bytes

end ProviderWallet
