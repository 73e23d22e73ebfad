import ProviderWallet.Proofs.AbiRoundTrip
import ProviderWallet.Proofs.SignerIdentity

namespace ProviderWallet

open Contract Workflow

section

variable {α β : Type}

/-- A workflow that reads a contract has a result for every answer that starts with some bytes.
Every answer that breaks off in them is a failure that names the function, and nothing is handed
over. -/
structure ReadsBack (w : Workflow (Except Failure α)) (contract : Address) (i : Invocation)
    (form : Bytes) (a : α) : Prop where
  whole (outside : Outside) (past : Trace) (rest : Bytes)
    (answered : outside past (.ask (.read contract i.input)) = .ok (form ++ rest)) :
    (w.playFrom outside past).1 = .ok a
  cut (outside : Outside) (past : Trace) (short : Bytes) (begins : short <+: form)
    (proper : short ≠ form)
    (answered : outside past (.ask (.read contract i.input)) = .ok short) :
    ∃ reason, (w.playFrom outside past).1 = .error (.reading i.signature reason)
  silent (outside : Outside) (past : Trace) : (w.playFrom outside past).2.sent = []

/-- What breaks off before the form is complete is not read. -/
theorem Abi.Reads.cut {read : Bytes → Option α} {form short : Bytes} {a : α}
    (reads : Reads read form a) (begins : short <+: form) (proper : short ≠ form) :
    read short = none := by
  obtain ⟨rest, rfl⟩ := begins
  cases result : read short with
  | none => rfl
  | some b =>
    have all : read (((short ++ rest) ++ []).take short.length) = some b := by simp [result]
    have needed := reads.needs all
    rw [List.length_append] at needed
    have nothing : rest = [] := List.eq_nil_of_length_eq_zero (by omega)
    simp [nothing] at proper

/-- Whatever is answered, nothing is handed over while a contract is read. -/
theorem Contract.Invocation.ask_sent (i : Invocation) (contract : Address)
    (readAnswer? : Bytes → Option α) :
    (i.ask contract readAnswer?).Yields fun trace _ => trace.sent = [] := by
  simp only [ask, of, bind_eq, bind_request, bind_done]
  apply yields_request
  intro answer
  cases answer with
  | error reason => exact yields_done rfl
  | ok data =>
    dsimp only
    split <;> exact yields_done rfl

/-- What a contract answers is read by what can read its binary form. -/
theorem Contract.Invocation.ask_readsBack (i : Invocation) (contract : Address)
    {readAnswer? : Bytes → Option α} {form : Bytes} {a : α}
    (reads : Abi.Reads readAnswer? form a) :
    ReadsBack (i.ask contract readAnswer?) contract i form a := by
  refine ⟨?_, ?_, i.ask_sent contract readAnswer?⟩
  · intro outside past rest answered
    simp [ask, of, playFrom, answered, reads.whole]
  · intro outside past short begins proper answered
    simp [ask, of, playFrom, answered, reads.cut begins proper]

theorem ReadsBack.map {w : Workflow (Except Failure α)} {contract : Address} {i : Invocation}
    {form : Bytes} {a : α} (h : ReadsBack w contract i form a) (f : α → β) :
    ReadsBack (do return (← w).map f) contract i form (f a) := by
  simp only [bind_eq, pure_eq]
  refine ⟨?_, ?_, ?_⟩
  · intro outside past rest answered
    rw [playFrom_bind]
    simp [playFrom, h.whole outside past rest answered, Except.map]
  · intro outside past short begins proper answered
    obtain ⟨reason, failed⟩ := h.cut outside past short begins proper answered
    rw [playFrom_bind]
    simp [playFrom, failed, Except.map]
  · intro outside past
    rw [playFrom_bind]
    simp [playFrom, h.silent outside past]

end

def Contract.Account.State.values (s : Account.State) : List Abi.Value :=
  [.address s.owner, .text s.node, .texts s.addresses, .uint8 s.flag, .address s.beneficiary,
   .uint256 s.quota, .uint256 s.expiration]

def Contract.NativeCollateral.Info.values (i : NativeCollateral.Info) : List Abi.Value :=
  [.address i.account, .uint256 i.balance, .uint256 i.frozen, .text i.status]

theorem Contract.Account.readState?_reads (s : Account.State)
    (fits : (Abi.encode s.values).length < Nat.pow 2 256) :
    Abi.Reads readState? (Abi.encode s.values) s := by
  have values := Abi.decode_reads fits
  refine ⟨?_, ?_⟩
  · intro rest
    have read := values.whole rest
    simp only [State.values, List.map_cons, List.map_nil, Abi.Value.ty] at read
    simp only [readState?, State.values, read]
  · intro rest n t read
    unfold readState? at read
    split at read
    · rename_i decoded
      exact values.needs decoded
    · cases read

theorem Contract.NativeCollateral.readInfo?_reads (i : NativeCollateral.Info)
    (fits : (Abi.encode i.values).length < Nat.pow 2 256) :
    Abi.Reads readInfo? (Abi.encodeStructure i.values) i := by
  have fields := Abi.decodeStructure_reads fits
  refine ⟨?_, ?_⟩
  · intro rest
    have read := fields.whole rest
    simp only [Info.values, List.map_cons, List.map_nil, Abi.Value.ty] at read
    simp only [readInfo?, Info.values, read]
  · intro rest n j read
    unfold readInfo? at read
    split at read
    · rename_i decoded
      exact fields.needs decoded
    · cases read

theorem Contract.TokenCollateral.readBalance?_reads (n : Wei) :
    Abi.Reads readBalance? (Abi.encode [.uint256 n]) n := by
  have fits : (Abi.encode [.uint256 n]).length < Nat.pow 2 256 := by
    rw [Abi.length_encode]
    simp [Abi.Value.part, Abi.bodies]
  have value := Abi.decode_reads fits
  refine ⟨?_, ?_⟩
  · intro rest
    have read := value.whole rest
    simp only [List.map_cons, List.map_nil, Abi.Value.ty] at read
    simp only [readBalance?, read]
  · intro rest k m read
    unfold readBalance? at read
    split at read
    · rename_i decoded
      exact value.needs decoded
    · cases read

/-- Whatever a contract holds is understood when the node answers with its binary form: the state of
an account, the collateral in the chain's own currency and that in tokens, addresses in checksum
case and amounts as texts. Answers that break off are failures that name the function. -/
theorem contract_views_read_back (contract account : Address) :
    (∀ s : Account.State, (Abi.encode s.values).length < Nat.pow 2 256 →
        ReadsBack (Account.askState contract) contract Account.state (Abi.encode s.values) s ∧
          Account.state.signature = "getAccount()" ∧
          s.json = .object
            [("owner_address", .string s.owner.text), ("node_id", .string s.node),
             ("multi_addresses", .array (s.addresses.map .string)),
             ("ubi_flag", .ofNat s.flag.toNat),
             ("beneficiary", .object
               [("address", .string s.beneficiary.text),
                ("quota", .string (Quantity.marked s.quota.toNat)),
                ("expiration", .string (Quantity.marked s.expiration.toNat))])]) ∧
      (∀ i : NativeCollateral.Info, (Abi.encode i.values).length < Nat.pow 2 256 →
        ReadsBack (NativeCollateral.askHolding contract account) contract
            (NativeCollateral.info account) (Abi.encodeStructure i.values)
            ⟨i.account.text, Amount.format i.balance, Amount.format i.frozen, i.status⟩ ∧
          (NativeCollateral.info account).signature = "cpInfo(address)") ∧
      ∀ n : Wei,
        ReadsBack (TokenCollateral.askBalance contract account) contract
            (TokenCollateral.balances account) (Abi.encode [.uint256 n]) (Amount.format n) ∧
          (TokenCollateral.balances account).signature = "balances(address)" := by
  refine ⟨?_, ?_, ?_⟩
  · intro s fits
    exact ⟨Account.state.ask_readsBack contract (Account.readState?_reads s fits), by decide, rfl⟩
  · intro i fits
    exact ⟨((NativeCollateral.info account).ask_readsBack contract
      (NativeCollateral.readInfo?_reads i fits)).map _, rfl⟩
  · intro n
    exact ⟨((TokenCollateral.balances account).ask_readsBack contract
      (TokenCollateral.readBalance?_reads n)).map Amount.format, rfl⟩

def readingOut (data : Bytes) : Outside := fun past q =>
  match q with
  | .ask (.read _ _) => (.ok data : Except String Bytes)
  | q => obliging past q

/-- The state of an account with two addresses and the collateral of an account are read back, and
not if the last byte of the state is missing. -/
theorem sample_views_read_back :
    let s : Account.State := ⟨⟨1⟩, "node", ["/ip4/10.0.0.1/tcp/9085", "ü"], 1, ⟨2⟩, 3, 4⟩
    let i : NativeCollateral.Info := ⟨⟨1⟩, 1500000000000000000, 0, "Active"⟩
    (Abi.encode s.values).length < Nat.pow 2 256 ∧ (Abi.encode i.values).length < Nat.pow 2 256 ∧
      ((Account.askState ⟨7⟩).play (readingOut (Abi.encode s.values ++ [9]))).1 = .ok s ∧
      (∃ reason, ((Account.askState ⟨7⟩).play (readingOut (Abi.encode s.values).dropLast)).1 =
        .error (.reading "getAccount()" reason)) ∧
      ((NativeCollateral.askHolding ⟨7⟩ ⟨1⟩).play (readingOut (Abi.encodeStructure i.values))).1 =
        .ok ⟨(⟨1⟩ : Address).text, "1.50000", "0.0", "Active"⟩ := by
  intro s i
  have state_fits : (Abi.encode s.values).length < Nat.pow 2 256 := by decide +kernel
  have info_fits : (Abi.encode i.values).length < Nat.pow 2 256 := by decide +kernel
  obtain ⟨states, infos, -⟩ := contract_views_read_back ⟨7⟩ ⟨1⟩
  obtain ⟨state, -, -⟩ := states s state_fits
  obtain ⟨info, -⟩ := infos i info_fits
  have shorter : (Abi.encode s.values).dropLast ≠ Abi.encode s.values := by decide +kernel
  have balance : Amount.format i.balance = "1.50000" := by decide +kernel
  have frozen : Amount.format i.frozen = "0.0" := by decide
  have held := info.whole (readingOut (Abi.encodeStructure i.values)) [] []
    (by rw [List.append_nil]; rfl)
  rw [balance, frozen] at held
  exact ⟨state_fits, info_fits, state.whole _ [] [9] rfl,
    state.cut _ [] _ (List.dropLast_prefix _) shorter rfl, held⟩

end ProviderWallet
