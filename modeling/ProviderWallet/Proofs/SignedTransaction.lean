import Mathlib.Tactic.DefEqTransformations
import ProviderWallet.Proofs.RlpRoundTrip
import ProviderWallet.Proofs.SignedDigest
import ProviderWallet.Rpc.Client

namespace ProviderWallet

theorem Address.ofBytes_bytes (a : Address) : ofBytes a.bytes = a := by
  have fits : a.value.toNat < Nat.pow 256 20 := a.value.isLt
  rw [ofBytes, bytes, Bytes.toNat_ofNat fits, BitVec.ofNat_toNat, BitVec.setWidth_eq]

namespace Transaction

theorem numberOf?_number (n : Nat) : numberOf? (number n) = some n := by
  rw [number, numberOf?, if_neg (Bytes.head?_minimal n), Bytes.toNat_minimal]

def said (tx : Transaction) (gas : UInt64) (s : ProviderWallet.Signature) : Signed where
  chainId := tx.chainId.toNat
  nonce := tx.nonce.toNat
  tipCap := tx.tipCap.toNat
  feeCap := tx.feeCap.toNat
  gas := gas.toNat
  recipient := tx.recipient
  value := (tx.value.getD 0).toNat
  input := tx.input
  signature := s

def Signed.signer? (t : Signed) : Option Address :=
  t.signature.signer? (Hash.Keccak.hash (typeByte :: Rlp.encode (.list
    [number t.chainId, number t.nonce, number t.tipCap, number t.feeCap, number t.gas,
     .bytes t.recipient.bytes, number t.value, .bytes t.input, .list []])))

theorem signer?_said (tx : Transaction) (gas : UInt64) (s : ProviderWallet.Signature) :
    (tx.said gas s).signer? = s.signer? (tx.signingDigest gas) := rfl

/-- No number of a transaction has more than 32 bytes. -/
theorem length_number_le {n : Nat} (fits : n < Nat.pow 256 32) :
    (Rlp.encode (number n)).length ≤ 41 := by
  have digits := Bytes.length_minimal_le fits
  have short : (Bytes.minimal n).length < Rlp.maxSize := Nat.lt_of_le_of_lt digits (by decide)
  have length := Rlp.length_encodeBytes_le short
  rw [number, Rlp.encode]
  omega

/-- No byte string in memory is as long as this. -/
def maxInput : Nat := Nat.pow 2 63

/-- A signed transaction is not too long to be written. -/
theorem length_wire_lt {tx : Transaction} (fits : tx.input.length < maxInput) (gas : UInt64)
    {s : ProviderWallet.Signature} (first : s.r < Nat.pow 256 32) (second : s.s < Nat.pow 256 32) :
    (Rlp.encode (.list (tx.items gas ++ signatureItems s))).length < Rlp.maxSize := by
  have word (n : UInt64) : (Rlp.encode (number n.toNat)).length ≤ 41 :=
    length_number_le (Nat.lt_trans n.toNat_lt (by decide))
  have price (n : Fee.Price) : (Rlp.encode (number n.toNat)).length ≤ 41 :=
    length_number_le (Nat.lt_trans n.isLt (by decide))
  have value := length_number_le (show (tx.value.getD 0).toNat < Nat.pow 256 32 from
    (tx.value.getD 0).isLt)
  have odd := length_number_le (show (if s.odd then 1 else 0) < Nat.pow 256 32 by
    split <;> decide)
  have r := length_number_le first
  have t := length_number_le second
  have recipient : tx.recipient.bytes.length = 20 := Bytes.length_ofNat ..
  have largest : maxInput + 500 < Rlp.maxSize := by decide
  have recipient_le := Rlp.length_encodeBytes_le
    (show tx.recipient.bytes.length < Rlp.maxSize by omega)
  have input_le := Rlp.length_encodeBytes_le (show tx.input.length < Rlp.maxSize by omega)
  have empty : (Rlp.encode (.list [])).length = 1 := by decide
  have content : (Rlp.encodeAll (tx.items gas ++ signatureItems s)).length ≤
      tx.input.length + 450 := by
    have chainId := word tx.chainId
    have nonce := word tx.nonce
    have tipCap := price tx.tipCap
    have feeCap := price tx.feeCap
    have limit := word gas
    simp only [items, signatureItems, List.cons_append, List.nil_append, Rlp.encodeAll,
      List.length_append, List.length_nil, empty]
    rw [Rlp.encode, Rlp.encode]
    omega
  have whole := Rlp.length_encode_list_le
    (show (Rlp.encodeAll (tx.items gas ++ signatureItems s)).length < Rlp.maxSize by omega)
  omega

/-- What a transaction says is read from its bytes. -/
theorem read?_wire {tx : Transaction} (fits : tx.input.length < maxInput) (gas : UInt64)
    {s : ProviderWallet.Signature} (first : s.r < Nat.pow 256 32) (second : s.s < Nat.pow 256 32) :
    Signed.read? (tx.wire gas s) = some (tx.said gas s) := by
  have length : ¬ (tx.recipient.bytes.length ≠ 20 ∨ 1 < if s.odd then 1 else 0) := by
    rw [Address.bytes, Bytes.length_ofNat]
    split <;> simp
  rw [wire, Signed.read?, if_neg (not_not_intro rfl), Rlp.decode?_encode
    (length_wire_lt fits gas first second), Option.bind_eq_bind, Option.bind_some]
  simp only [items, signatureItems, List.cons_append, List.nil_append, numberOf?_number,
    Option.bind_eq_bind, Option.bind_some, if_neg length, Address.ofBytes_bytes]
  have odd : decide ((if s.odd then 1 else 0) = 1) = s.odd := by
    cases s.odd <;> rfl
  rw [odd]
  rfl

/-- Nothing else that is signed is written as the same bytes. -/
theorem said_inj {tx tx' : Transaction} {gas gas' : UInt64} {s s' : ProviderWallet.Signature}
    (same : tx.said gas s = tx'.said gas' s') :
    tx'.chainId = tx.chainId ∧ tx'.nonce = tx.nonce ∧ tx'.tipCap = tx.tipCap ∧
      tx'.feeCap = tx.feeCap ∧ gas' = gas ∧ tx'.recipient = tx.recipient ∧
      tx'.value.getD 0 = tx.value.getD 0 ∧ tx'.input = tx.input := by
  obtain ⟨chainId, nonce, tipCap, feeCap, limit, recipient, value, input, -⟩ :=
    Signed.mk.injEq .. ▸ same
  exact ⟨UInt64.toNat_inj.mp chainId.symm, UInt64.toNat_inj.mp nonce.symm,
    BitVec.eq_of_toNat_eq tipCap.symm, BitVec.eq_of_toNat_eq feeCap.symm,
    UInt64.toNat_inj.mp limit.symm, recipient.symm, BitVec.eq_of_toNat_eq value.symm, input.symm⟩

/-- A signed transaction is the transaction with a signature of its digest. -/
theorem sign_eq_ok {tx : Transaction} {gas : UInt64} {signer : SecretKey} {wire : Bytes}
    (signed : tx.sign gas signer = .ok wire) :
    ∃ s, signer.signDigest (tx.signingDigest gas) = .ok s ∧ wire = tx.wire gas s := by
  rw [sign] at signed
  generalize signer.signDigest (tx.signingDigest gas) = result at signed
  cases result with
  | error f => cases signed
  | ok s =>
    cases signed
    exact ⟨s, rfl, rfl⟩

end Transaction

namespace Rpc.Exchange

def asked {α : Type} : Exchange α → List Reply → List Query
  | done _, _ => []
  | query q _, [] => [q]
  | query q next, reply :: replies => q :: (next reply).asked replies

-- An equation of functions: of the results the checker would try to compute the signature.
theorem submit_def : submit = fun signer tx gas =>
    match tx.sign gas signer with
    | .error f => done (.error f.message)
    | .ok wire => single (.submit wire) hash? := rfl

theorem asked_single {α : Type} (q : Query) (read? : Json → Option α) (replies : List Reply) :
    (single q read?).asked replies = [q] := by
  cases replies <;> rfl

/-- A transaction is handed over as it was signed, and nothing is asked after that. -/
theorem asked_send {signer : SecretKey} {tx : Transaction} {gas : UInt64} {wire : Bytes}
    {estimate : Reply} (estimated : resultOf word64? estimate = .ok gas)
    (signed : tx.sign gas signer = .ok wire) (replies : List Reply) :
    (ofCall (.send signer tx)).asked (estimate :: replies) = [.gas tx, .submit wire] := by
  rw [ofCall, send, asked, estimated]
  dsimp only
  rw [submit_def]
  beta_reduce
  rw [signed]
  dsimp only
  rw [asked_single]

end Rpc.Exchange

open Rpc in
/-- The bytes that are handed over to the node for a transaction say what was asked for, and their
signature is that of the sender. What says something else or is sent by another account is written
as other bytes. -/
theorem wire_says_request (p : Transaction.Parameters) (recipient : Address) (input : Bytes)
    (fits : input.length < Transaction.maxInput) (gas : UInt64) (estimate : Reply)
    (estimated : resultOf word64? estimate = .ok gas)
    (library : p.signer.Recoverable ((p.complete recipient input).signingDigest gas)) :
    let tx := p.complete recipient input
    ∃ wire signature,
      tx.sign gas p.signer = .ok wire ∧
      (∀ replies, (Exchange.ofCall (.send p.signer tx)).asked (estimate :: replies) =
        [.gas tx, ⟨"eth_sendRawTransaction", some [.string (Text.Hex.encodeMarked wire)]⟩]) ∧
      (let said : Transaction.Signed :=
        { chainId := p.chainId.toNat
          nonce := p.nonce.toNat
          tipCap := p.tipCap.toNat
          feeCap := p.feeCap.toNat
          gas := gas.toNat
          recipient := recipient
          value := (p.value.getD 0).toNat
          input := input
          signature := signature }
       Transaction.Signed.read? wire = some said ∧ said.signer? = some p.signer.address) ∧
      ∀ (p' : Transaction.Parameters) (recipient' : Address) (input' : Bytes) (gas' : UInt64),
        input'.length < Transaction.maxInput →
        (p'.complete recipient' input').sign gas' p'.signer = .ok wire →
        (p'.chainId = p.chainId ∧ p'.nonce = p.nonce ∧ p'.tipCap = p.tipCap ∧
          p'.feeCap = p.feeCap ∧ gas' = gas ∧ recipient' = recipient ∧
          p'.value.getD 0 = p.value.getD 0 ∧ input' = input) ∧
        (p'.signer.Recoverable ((p'.complete recipient' input').signingDigest gas') →
          p'.signer.address = p.signer.address) := by
  intro tx
  obtain ⟨s, signed, recovered⟩ := library
  obtain ⟨first, second⟩ := SecretKey.signDigest_small signed
  have written : tx.sign gas p.signer = .ok (tx.wire gas s) := by
    rw [Transaction.sign, signed]
    rfl
  have read : Transaction.Signed.read? (tx.wire gas s) = some (tx.said gas s) :=
    Transaction.read?_wire fits gas first second
  have signer : (tx.said gas s).signer? = some p.signer.address := by
    rw [Transaction.signer?_said]
    exact recovered
  refine ⟨tx.wire gas s, s, written, Exchange.asked_send estimated written, ⟨read, signer⟩, ?_⟩
  intro p' recipient' input' gas' fits' signed'
  obtain ⟨s', signed', same⟩ := Transaction.sign_eq_ok signed'
  obtain ⟨first', second'⟩ := SecretKey.signDigest_small signed'
  rw [same, Transaction.read?_wire fits' gas' first' second'] at read
  have alike := Option.some.inj read
  refine ⟨Transaction.said_inj alike.symm, fun library' => ?_⟩
  rw [← alike, Transaction.signer?_said, library'.signer?_eq signed'] at signer
  exact Option.some.inj signer

/-- A transaction with small numbers, no value and an input that is written with a size of its
own. -/
theorem sample_says_request :
    let p : Transaction.Parameters := ⟨⟨1, by decide, by decide⟩, 7, 1, 3, 2, none⟩
    let input : Bytes := List.replicate 60 9
    let estimate : Rpc.Reply := .ok (200, "\x7b\"id\":0,\"result\":\"0x5208\"\x7d")
    input.length < Transaction.maxInput ∧ Rpc.resultOf Rpc.word64? estimate = .ok 21000 ∧
      p.signer.Recoverable ((p.complete ⟨5⟩ input).signingDigest 21000) ∧
      ∃ wire signature, (p.complete ⟨5⟩ input).sign 21000 p.signer = .ok wire ∧
        Transaction.Signed.read? wire = some ⟨1, 7, 2, 3, 21000, ⟨5⟩, 0, input, signature⟩ := by
  intro p input estimate
  have fits : input.length < Transaction.maxInput := by decide
  have estimated : Rpc.resultOf Rpc.word64? estimate = .ok 21000 := by
    have value : (Rpc.resultOf Rpc.word64? estimate).toOption = some 21000 := by decide +kernel
    generalize Rpc.resultOf Rpc.word64? estimate = result at value
    cases result with
    | error _ => cases value
    | ok gas =>
      cases value
      rfl
  have payload : Transaction.typeByte ::
      Rlp.encode (.list ((p.complete ⟨5⟩ input).items 21000)) = samplePayload := by
    decide +kernel
  have library : p.signer.Recoverable ((p.complete ⟨5⟩ input).signingDigest 21000) := by
    rw [Transaction.signingDigest, payload]
    exact SecretKey.recoverable_sample
  obtain ⟨wire, signature, signed, -, ⟨read, -⟩, -⟩ :=
    wire_says_request p ⟨5⟩ input fits 21000 estimate estimated library
  exact ⟨fits, estimated, library, wire, signature, signed, read⟩

end ProviderWallet
