import ProviderWallet.Cipher.Aes256

namespace ProviderWallet.Cipher.Gcm

/-- Multiplication in the field of 2 ^ 128 elements, whose bits are written first power first. -/
def multiply (x y : Nat) : Nat :=
  ((List.range 128).foldl (fun (acc, v) i =>
    let acc := if x.testBit (127 - i) then acc ^^^ v else acc
    let v := if v.testBit 0 then (v >>> 1) ^^^ (0xe1 <<< 120) else v >>> 1
    (acc, v)) (0, y)).1

def blocks (bytes : Bytes) : List Bytes :=
  if _h : bytes = [] then [] else bytes.take 16 :: blocks (bytes.drop 16)
termination_by bytes.length
decreasing_by
  have : bytes.length ≠ 0 := by simpa using _h
  simp only [List.length_drop]; omega

/-- The polynomial of a ciphertext and its length at the point `h`. -/
def digest (h : Nat) (ciphertext : Bytes) : Nat :=
  let lengths := Bytes.ofNat 8 0 ++ Bytes.ofNat 8 (8 * ciphertext.length)
  (blocks ciphertext ++ [lengths]).foldl
    (fun y block => multiply (y ^^^ Bytes.toNat (Bytes.padRight 16 block)) h) 0

def counter (nonce : Bytes) (n : Nat) : Bytes :=
  nonce ++ Bytes.ofNat 4 n

/-- Adds the key stream; doing it twice changes nothing. -/
def stream (words : Array Bytes) (nonce text : Bytes) : Bytes :=
  (blocks text).zipIdx.flatMap fun (block, i) =>
    Bytes.xor block (Aes256.encipher words (counter nonce (i + 2)))

def tag (words : Array Bytes) (nonce ciphertext : Bytes) : Bytes :=
  let h := Bytes.toNat (Aes256.encipher words (List.replicate 16 0))
  Bytes.xor (Bytes.ofNat 16 (digest h ciphertext)) (Aes256.encipher words (counter nonce 1))

/-- The ciphertext followed by its tag of 16 bytes. The nonce has 12 bytes, and no other data is
protected. -/
def encrypt (key nonce plaintext : Bytes) : Bytes :=
  let words := Aes256.expand key
  let ciphertext := stream words nonce plaintext
  ciphertext ++ tag words nonce ciphertext

def decrypt (key nonce sealedText : Bytes) : Option Bytes :=
  if sealedText.length < 16 then none
  else
    let words := Aes256.expand key
    let ciphertext := sealedText.take (sealedText.length - 16)
    if tag words nonce ciphertext = sealedText.drop (sealedText.length - 16) then
      some (stream words nonce ciphertext)
    else none

end ProviderWallet.Cipher.Gcm
