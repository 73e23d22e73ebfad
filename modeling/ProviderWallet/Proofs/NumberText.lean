import ProviderWallet.Proofs.AmountText
import ProviderWallet.Proofs.CallData
import ProviderWallet.Proofs.CommandCourse
import ProviderWallet.Proofs.EscrowBody
import ProviderWallet.Proofs.SignThenVerify

namespace ProviderWallet

open Decimal (digitValue isDigit value AllDigits)
open Storage (Files)
open Text

namespace Quantity

/-- Characters that are read as a number: digits with the number as their value, and underscores. -/
structure TakenFor (cs : List Char) (n : Wei) : Prop where
  known : ∀ c ∈ cs, isDigit c = true ∨ c = '_'
  value : n.toNat = value (cs.filter isDigit)

variable {c : Char} {cs : List Char} {sofar : Nat} {n : Wei}

theorem readFrom_mark (sofar : Nat) (bytes : Bytes) :
    readFrom sofar (String.utf8EncodeChar '_' ++ bytes) = readFrom sofar bytes := by
  rw [Bytes.encode_ascii (by decide), List.singleton_append, readFrom]
  rfl

theorem isDigit_ascii (digit : isDigit c = true) : c.toNat < 128 := by
  simp only [isDigit, Bool.and_eq_true, decide_eq_true_eq] at digit
  omega

theorem readFrom_digit (digit : isDigit c = true) (sofar : Nat) (bytes : Bytes) :
    readFrom sofar (String.utf8EncodeChar c ++ bytes) =
      if 2 ^ 256 ≤ sofar * 10 + digitValue c then .error .tooLarge
      else readFrom (sofar * 10 + digitValue c) bytes := by
  obtain ⟨noMark, low, high, byte⟩ := byte_of_digit digit
  rw [Bytes.encode_ascii (isDigit_ascii digit), List.singleton_append, readFrom, if_neg noMark,
    if_pos ⟨low, high⟩, byte]
  rfl

theorem readFrom_wrong {b : UInt8} (noMark : b ≠ 95) (noDigit : ¬ (48 ≤ b ∧ b ≤ 57)) (sofar : Nat)
    (bytes : Bytes) : readFrom sofar (b :: bytes) = .error (.badDigit b) := by
  rw [readFrom, if_neg noMark, if_neg noDigit]

/-- A character that is no digit and no underscore is refused, at its first byte. -/
theorem readFrom_other (noDigit : isDigit c = false) (noMark : c ≠ '_') (sofar : Nat)
    (bytes : Bytes) :
    ∃ b, readFrom sofar (String.utf8EncodeChar c ++ bytes) = .error (.badDigit b) := by
  by_cases ascii : c.toNat < 128
  · have same : (UInt8.ofNat c.toNat).toNat = c.toNat := by
      rw [UInt8.toNat_ofNat']
      omega
    refine ⟨UInt8.ofNat c.toNat, ?_⟩
    rw [Bytes.encode_ascii ascii, List.singleton_append]
    apply readFrom_wrong
    · rw [ne_eq, ← UInt8.toNat_inj, same]
      exact fun mark => noMark (Char.toNat_inj.mp mark)
    · rw [UInt8.le_iff_toNat_le, UInt8.le_iff_toNat_le, same]
      simpa [isDigit] using noDigit
  · obtain ⟨b, rest, encoded, large⟩ := Bytes.encode_other (Nat.le_of_not_lt ascii)
    refine ⟨b, ?_⟩
    rw [encoded, List.cons_append]
    apply readFrom_wrong
    · rintro rfl
      exact absurd large (by decide)
    · rintro ⟨-, high⟩
      have high : b.toNat ≤ 57 := UInt8.le_iff_toNat_le.mp high
      omega

/-- Which characters are read as which number, after digits that were read before. -/
theorem readFrom_eq_ok_iff (fits : sofar < 2 ^ 256) :
    readFrom sofar (cs.flatMap String.utf8EncodeChar) = .ok n ↔
      (∀ c ∈ cs, isDigit c = true ∨ c = '_') ∧
        n.toNat = sofar * 10 ^ (cs.filter isDigit).length + value (cs.filter isDigit) := by
  induction cs generalizing sofar with
  | nil =>
    have read : (BitVec.ofNat 256 sofar).toNat = sofar := by
      rw [BitVec.toNat_ofNat, Nat.mod_eq_of_lt fits]
    rw [List.flatMap_nil, readFrom, Except.ok.injEq, ← BitVec.toNat_inj, read, List.filter_nil,
      List.length_nil, Nat.pow_zero, Nat.mul_one, show value [] = 0 from rfl, Nat.add_zero,
      and_iff_right (List.forall_mem_nil _), eq_comm]
  | cons c cs ih =>
    rw [List.flatMap_cons, List.forall_mem_cons]
    by_cases digit : isDigit c = true
    · have same : sofar * 10 ^ ((cs.filter isDigit).length + 1) +
          (digitValue c * 10 ^ (cs.filter isDigit).length + value (cs.filter isDigit)) =
          (sofar * 10 + digitValue c) * 10 ^ (cs.filter isDigit).length +
            value (cs.filter isDigit) := by
        ring
      rw [readFrom_digit digit, List.filter_cons_of_pos digit, Decimal.value_cons, List.length_cons,
        same, and_iff_right (show isDigit c = true ∨ c = '_' from .inl digit)]
      by_cases large : 2 ^ 256 ≤ sofar * 10 + digitValue c
      · -- No word is as large as the digits so far, nor so with more of them.
        rw [if_pos large]
        constructor
        · rintro ⟨⟩
        rintro ⟨-, word⟩
        have more := Nat.le_mul_of_pos_right (sofar * 10 + digitValue c)
          (Nat.pow_pos (show 0 < 10 by decide) (n := (cs.filter isDigit).length))
        have := n.isLt
        omega
      · rw [if_neg large]
        exact ih (Nat.lt_of_not_le large)
    · by_cases mark : c = '_'
      · subst mark
        rw [readFrom_mark, List.filter_cons_of_neg digit, ih fits]
        simp
      · obtain ⟨b, wrong⟩ := readFrom_other (by simpa using digit) mark sofar
          (cs.flatMap String.utf8EncodeChar)
        rw [wrong]
        simp [digit, mark]

/-- A text is read as the number for which it is taken without the blanks around it. -/
theorem read_trimText_iff (text : String) :
    read (Blank.trimText text) = .ok n ↔ TakenFor (Blank.trim text.toList) n := by
  rw [Blank.trimText, read, Bytes.ofText_ofList, readFrom_eq_ok_iff (by decide), Nat.zero_mul,
    Nat.zero_add]
  constructor
  · rintro ⟨known, value⟩
    exact ⟨known, value⟩
  · rintro ⟨known, value⟩
    exact ⟨known, value⟩

namespace TakenFor

/-- What is taken for a number is all digits unless there is an underscore in it. -/
theorem allDigits_iff (taken : TakenFor cs n) : AllDigits cs ↔ '_' ∉ cs := by
  constructor
  · intro digits among
    have digit := digits '_' among
    exact absurd digit (by decide)
  · intro none c among
    rcases taken.known c among with digit | rfl
    · exact digit
    · exact absurd among none

/-- Without underscores the number is that of the digits. -/
theorem value_of_digits (taken : TakenFor cs n) (digits : AllDigits cs) :
    n.toNat = Decimal.value cs := by
  rw [taken.value, List.filter_eq_self.mpr digits]

end TakenFor

end Quantity

open Quantity (TakenFor)

namespace Hub

/-- An amount of the hub is shown as the number for which its text is taken. -/
theorem escrowOfBody_text_iff {body message : String} {text : List Char} {shown : String}
    (gives : Gives body (.string (some text)) message) : escrowOfBody body = .ok shown ↔
      ∃ n, TakenFor (Blank.trim text) n ∧ shown = Amount.format n := by
  have read (n : Wei) := Quantity.read_trimText_iff (n := n) (.ofList text)
  rw [String.toList_ofList] at read
  rw [escrowOfBody_string gives]
  cases result : Quantity.read (Blank.trimText (.ofList text)) with
  | ok wei =>
    rw [result] at read
    constructor
    · intro same
      exact ⟨wei, (read wei).mp rfl, (Except.ok.inj same).symm⟩
    · rintro ⟨n, taken, rfl⟩
      rw [Except.ok.inj ((read n).mpr taken)]
  | error fault =>
    rw [result] at read
    constructor
    · rintro ⟨⟩
    · rintro ⟨n, taken, -⟩
      cases (read n).mpr taken

end Hub

namespace Command

section

variable {α β : Type} {m : Action α} {f : α → Action β} {fact : α → Prop} {files files' : Files}
  {b : β}

theorem Action.run_bind_inv (run : (m >>= f).run.run files = (.ok b, files')) : ∃ a files'',
    m.run.run files = (.ok a, files'') ∧ (f a).run.run files'' = (.ok b, files') := by
  rcases first : m.run.run files with ⟨p | a, files''⟩
  · rw [run_bind_error first] at run
    cases run
  · rw [run_bind_ok first] at run
    exact ⟨a, files'', rfl, run⟩

theorem Action.run_get {f : Files → Action β} :
    ((MonadState.get : Action Files) >>= f).run.run files = (f files).run.run files :=
  rfl

theorem Action.Reads.run_inv (h : m.Reads files fact)
    (run : (m >>= f).run.run files = (.ok b, files')) :
    ∃ a, fact a ∧ (f a).run.run files = (.ok b, files') := by
  obtain ⟨a, files'', first, rest⟩ := run_bind_inv run
  have kept := h.kept
  have known := h.known a
  rw [first] at kept known
  exact ⟨a, known rfl, kept ▸ rest⟩

end

/-- An argument of the command line is read as the number for which its text is taken. -/
theorem quantityArgument_iff (name : String) {text : String} {n : Wei} {files : Files} :
    (quantityArgument name text).run.run files = (.ok n, files) ↔
      TakenFor (Blank.trim text.toList) n := by
  rw [← Quantity.read_trimText_iff, quantityArgument]
  cases Quantity.read (Blank.trimText text) with
  | ok m =>
    constructor
    · intro same
      rw [Except.ok.inj (Prod.mk.inj same).1]
    · rintro ⟨⟩
      rfl
  | error fault => constructor <;> rintro ⟨⟩

theorem beneficiary_invocation {account quota expiration : String} {files files' : Files}
    {invocation : Contract.Invocation}
    (run : (Change.beneficiary account quota expiration).invocation.run.run files =
      (.ok invocation, files')) :
    ∃ a q e, Address.parse account = .ok a ∧ TakenFor (Blank.trim quota.toList) q ∧
      TakenFor (Blank.trim expiration.toList) e ∧
      invocation = Contract.Account.changeBeneficiary a q e := by
  obtain ⟨a, parsed, run⟩ := (addressArgument_reads _ account files).run_inv run
  obtain ⟨q, read, run⟩ := (quantityArgument_reads _ quota files).run_inv run
  obtain ⟨e, read', run⟩ := (quantityArgument_reads _ expiration files).run_inv run
  cases run
  exact ⟨a, q, e, parsed, (Quantity.read_trimText_iff quota).mp read,
    (Quantity.read_trimText_iff expiration).mp read', rfl⟩

theorem addressArgument_iff (name : String) {text : String} {a : Address} {files : Files} :
    (addressArgument name text).run.run files = (.ok a, files) ↔ Address.parse text = .ok a := by
  rw [addressArgument]
  cases Address.parse text with
  | ok b =>
    constructor
    · intro same
      rw [Except.ok.inj (Prod.mk.inj same).1]
    · rintro ⟨⟩
      rfl
  | error f => constructor <;> rintro ⟨⟩

/-- Reporting about a result does nothing besides. -/
theorem reporting_trace {α : Type} (report : α → Report) (w : Workflow (Except Failure α))
    (outside : Outside) : ((reporting report w).play outside).2 = (w.play outside).2 := by
  have bound := Workflow.playFrom_bind outside [] w fun result =>
    .done ((Problem.ofFailure result).map report)
  exact (congrArg Prod.snd bound).trans (List.append_nil _)

/-- A call that is reported about hands over its input. -/
theorem reporting_hands (report : TxHash → Report) (op : Operator) (key : KeyText)
    (contract : Address) (call : Contract.Mutation) (outside : Outside) :
    ∀ tx ∈ handed ((reporting report (call.perform op key contract)).play outside).2.acts,
      tx.input = call.invocation.input := by
  intro tx among
  rw [reporting_trace] at among
  rw [call.invocation_input]
  exact congrArg Payload.input ((call.perform_does op key contract).play outside tx among)

/-- Whatever a change of the beneficiary hands over calls the contract with the numbers for which
the texts are taken. -/
theorem Session.changeBeneficiary_hands {s : Session} {signer account quota expiration : String}
    {files files' : Files} {task : Task}
    (run : (s.changeAccount signer (.beneficiary account quota expiration)).run.run files =
      (.ok task, files')) :
    ∃ a q e endpoint work, Address.parse account = .ok a ∧
      TakenFor (Blank.trim quota.toList) q ∧ TakenFor (Blank.trim expiration.toList) e ∧
      task = .remote endpoint work ∧ ∀ outside, ∀ tx ∈ handed (work.play outside).2.acts,
        tx.input = (Contract.Account.changeBeneficiary a q e).input := by
  obtain ⟨contract, -, run⟩ := (s.accountAddress_reads files).run_inv run
  obtain ⟨invocation, files₁, made, run⟩ := Action.run_bind_inv run
  obtain ⟨a, q, e, parsed, taken, taken', rfl⟩ := beneficiary_invocation made
  obtain ⟨folder, files₂, -, run⟩ := Action.run_bind_inv run
  obtain ⟨account, -, run⟩ := (addressArgument_reads _ signer files₂).run_inv run
  obtain ⟨endpoint, -, run⟩ := (s.endpoint_reads files₂).run_inv run
  obtain ⟨_, files₃, -, run⟩ := Action.run_bind_inv run
  obtain ⟨key, files₄, -, run⟩ := Action.run_bind_inv run
  cases run
  refine ⟨a, q, e, endpoint, _, parsed, taken, taken', rfl, fun outside tx among => ?_⟩
  exact reporting_hands .sent _ key contract (.provider (.beneficiary a q e)) outside tx among

/-- A change of an account for which all is there gets as far as the network. -/
theorem Session.changeAccount_of_found {s : Session} {signer : String} {change : Change}
    {files files' files'' : Files} {contract account : Address} {invocation : Contract.Invocation}
    {endpoint : Http.Url} {key : KeyText}
    (configured : s.config.accountAddress s.folder files = .ok contract)
    (made : change.invocation.run.run files = (.ok invocation, files'))
    (prepared : Keystore.Folder.prepare (s.config.keystorePath s.folder) files' = .ok files'')
    (parsed : Address.parse signer = .ok account)
    (reached : s.endpoint.run.run files'' = (.ok endpoint, files''))
    (found : s.keystore.get files'' account.recordName = .ok (some key)) :
    (s.changeAccount signer change).run.run files = (.ok (.remote endpoint (reporting .sent
      ((s.operator s.keystore files'').invoke key contract invocation none))), files'') := by
  have contract_run : s.accountAddress.run.run files = (.ok contract, files) := by
    refine Action.run_get.trans ?_
    rw [configured]
    rfl
  have key_run : (Action.ofFailure ((s.operator s.keystore files'').keyFor account
      change.task)).run.run files'' = (.ok key, files'') := by
    rw [Operator.keyFor, keyOf_operator, found]
    rfl
  rw [Session.changeAccount, Action.run_bind_ok contract_run, Action.run_bind_ok made,
    Action.run_bind_ok (openKeystore_of_ok prepared),
    Action.run_bind_ok ((addressArgument_iff _).mpr parsed), Action.run_bind_ok reached]
  refine Action.run_get.trans ?_
  dsimp only
  rw [Action.run_bind_ok key_run]
  rfl

end Command

/-- What a text is taken for where a number should be, without the blanks around it. -/
structure ReadAsNumber (text : String) : Prop where
  escrow : ∀ {body message}, Hub.Gives body (.string (some text.toList)) message → ∀ shown,
    Hub.escrowOfBody body = .ok shown ↔
      ∃ n, TakenFor (Blank.trim text.toList) n ∧ shown = Amount.format n
  argument : ∀ name files n, (Command.quantityArgument name text).run.run files = (.ok n, files) ↔
    TakenFor (Blank.trim text.toList) n
  -- Nothing at all is taken for zero.
  nothing : Blank.trim text.toList = [] → TakenFor (Blank.trim text.toList) 0
  -- An accepted text is the decimal number that it is taken for, unless it is none or there are
  -- underscores.
  decimal : ∀ n, TakenFor (Blank.trim text.toList) n →
    (Blank.trim text.toList ≠ [] ∧ AllDigits (Blank.trim text.toList) ∧
      n.toNat = value (Blank.trim text.toList) ↔
        Blank.trim text.toList ≠ [] ∧ '_' ∉ Blank.trim text.toList)

/-- Whatever a text is taken for, it is taken for it everywhere. -/
theorem read_as_number (text : String) : ReadAsNumber text where
  escrow gives _ := Hub.escrowOfBody_text_iff gives
  argument name _ _ := Command.quantityArgument_iff name
  nothing none := by
    rw [none]
    exact ⟨List.forall_mem_nil _, rfl⟩
  decimal _ taken := by
    refine and_congr_right fun _ => ?_
    rw [← taken.allDigits_iff]
    exact and_iff_left_of_imp taken.value_of_digits

/-- Texts are taken for numbers in the hub's answer and on the command line alike, and a change of
the beneficiary that is accepted hands over the numbers for which its texts are taken. -/
theorem digits_taken_for_numbers (text quota expiration : String) : ReadAsNumber text ∧
    ∀ (s : Command.Session) inputs files files' signer account task,
      (s.perform inputs (.changeAccount signer (.beneficiary account quota expiration))).run.run
        files = (.ok task, files') →
      ∃ a q e endpoint work, Address.parse account = .ok a ∧
        TakenFor (Blank.trim quota.toList) q ∧ TakenFor (Blank.trim expiration.toList) e ∧
        task = .remote endpoint work ∧ ∀ outside, ∀ tx ∈ handed (work.play outside).2.acts,
          tx.input = (Contract.Account.changeBeneficiary a q e).input :=
  ⟨read_as_number text, fun _ _ _ _ _ _ _ run => Command.Session.changeBeneficiary_hands run⟩

theorem exists_of_isOk {ε α : Type} {result : Except ε α} (ok : result.isOk = true) :
    ∃ a, result = .ok a := by
  cases result with
  | error e => cases ok
  | ok a => exact ⟨a, rfl⟩

/-- The texts `1_0` and nothing as limits of a beneficiary, in a session that has all it needs: the
transaction that is handed over says 10 and 0. -/
theorem quota_with_mark_handed :
    let secret : SecretKey := ⟨1, by decide, by decide⟩
    let contracts : Config.Contracts := ⟨"", "", "", "0x0000000000000000000000000000000000000007"⟩
    let s : Command.Session := ⟨"/c", { Config.standard with contracts }, none, none⟩
    let files := firstStored s.keystore (Files.withFolder ["c", "keystore"]) ["c", "keystore"]
      ⟨0, 0, 0⟩ ⟨5⟩ ⟨secret.text⟩
    let command := Command.changeAccount "0x0000000000000000000000000000000000000005"
      (.beneficiary "0x0000000000000000000000000000000000000009" "1_0" "")
    (∃ endpoint work, (s.perform ⟨[], ⟨0, 0, 0⟩, secret⟩ command).run.run files =
        (.ok (.remote endpoint work), files) ∧
      ∃ tx ∈ handed (work.play obliging).2.acts,
        tx.input = (Contract.Account.changeBeneficiary ⟨9⟩ 10 0).input) ∧
      Hub.escrowOfBody (Hub.shortBody (Json.quoteChars "1_0")) = .ok (Amount.format 10) := by
  intro secret contracts s files command
  obtain ⟨marked, commands⟩ := digits_taken_for_numbers "1_0" "1_0" ""
  have taken : TakenFor (Blank.trim "1_0".toList) 10 := (Quantity.read_trimText_iff "1_0").mp rfl
  have taken' : TakenFor (Blank.trim "".toList) 0 := (Quantity.read_trimText_iff "").mp rfl
  constructor
  · have reaches : s.keystore.Reaches (Files.withFolder ["c", "keystore"]) ["c", "keystore"] :=
      ⟨by decide +kernel, ⟨0o755, rfl⟩, by decide⟩
    have found := get_firstStored reaches (fun _ => rfl) ⟨0, 0, 0⟩ ⟨5⟩ ⟨secret.text⟩
    have prepared : Keystore.Folder.prepare (s.config.keystorePath s.folder) files = .ok files := by
      have there : files.exists? (s.config.keystorePath s.folder) = true := by decide +kernel
      rw [Keystore.Folder.prepare, Files.createPrivate, if_pos there]
      rfl
    have configured : s.config.accountAddress s.folder files = .ok ⟨7⟩ := by
      rw [Config.accountAddress, if_pos (by decide +kernel)]
      decide +kernel
    have nine : Address.parse "0x0000000000000000000000000000000000000009" = .ok ⟨9⟩ := by
      decide +kernel
    have made : (Command.Change.beneficiary "0x0000000000000000000000000000000000000009" "1_0"
        "").invocation.run.run files =
          (.ok (Contract.Account.changeBeneficiary ⟨9⟩ 10 0), files) := by
      rw [Command.Change.invocation,
        Command.Action.run_bind_ok ((Command.addressArgument_iff _).mpr nine),
        Command.Action.run_bind_ok ((Command.quantityArgument_iff _).mpr taken),
        Command.Action.run_bind_ok ((Command.quantityArgument_iff _).mpr taken')]
      rfl
    obtain ⟨endpoint, named⟩ : ∃ endpoint,
        Network.endpointOf "https://mainnet-rpc.swanchain.org" = .ok endpoint :=
      exists_of_isOk (by decide +kernel)
    have reached : s.endpoint.run.run files = (.ok endpoint, files) := by
      have url : s.config.endpoint s.chain = .ok "https://mainnet-rpc.swanchain.org" := by
        decide +kernel
      have known : (Command.Action.ofProblem (s.config.endpoint s.chain)).run.run files =
          (.ok "https://mainnet-rpc.swanchain.org", files) := by
        rw [url]
        rfl
      rw [Command.Session.endpoint, Command.Action.run_bind_ok known, named]
      rfl
    have parsed : Address.parse "0x0000000000000000000000000000000000000005" = .ok ⟨5⟩ := by
      decide +kernel
    have run := Command.Session.changeAccount_of_found configured made prepared parsed reached found
    obtain ⟨a, q, e, _, work, parsed', read, read', same, hands⟩ :=
      commands s ⟨[], ⟨0, 0, 0⟩, secret⟩ files files _ _ _ run
    obtain ⟨rfl, rfl⟩ := Command.Task.remote.inj same
    obtain rfl : a = ⟨9⟩ := Except.ok.inj (parsed'.symm.trans nine)
    obtain rfl : q = 10 := BitVec.toNat_inj.mp (read.value.trans taken.value.symm)
    obtain rfl : e = 0 := BitVec.toNat_inj.mp (read'.value.trans taken'.value.symm)
    have known : (Submission.ofInvocation ⟨secret.text⟩ ⟨7⟩
        (Contract.Account.changeBeneficiary ⟨9⟩ 10 0) none).key.secret = .ok secret :=
      secret.secret_text
    have within : (s.operator s.keystore files).timeLimit ≤ Millis.last := by decide
    obtain ⟨tx, sent⟩ := Submission.submit_obliging known within
    refine ⟨endpoint, _, run, tx, ?_, hands obliging tx ?_⟩ <;>
    · rw [Command.reporting_trace, handed_acts, Operator.invoke, sent]
      exact List.mem_singleton_self tx
  · refine (marked.escrow (Hub.shortBody_gives ?_) _).mpr ⟨10, taken, rfl⟩
    exact fun depth rest _ => Json.readPart_quoted "1_0" depth rest

/-- Underscores in an amount of the hub are skipped, and no digits at all are zero. -/
theorem no_decimal_numbers_accepted :
    Hub.escrowOfBody
        "\x7b\"data\":\x7b\"Frozen_Collateral\":\"1_000000000000000000\"\x7d\x7d" =
      .ok "1.00000" ∧
    Hub.escrowOfBody "\x7b\"data\":\x7b\"Frozen_Collateral\":\" \"\x7d\x7d" = .ok "0.0" ∧
    (Command.quantityArgument "quota" "_").run.run (Files.withFolder []) =
      (.ok 0, Files.withFolder []) ∧
    ¬ AllDigits "1_000000000000000000".toList := by
  refine ⟨by decide +kernel, by decide +kernel, rfl, ?_⟩
  intro digits
  exact absurd (digits '_' (by decide)) (by decide)

end ProviderWallet
