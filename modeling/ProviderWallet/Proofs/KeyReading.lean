import ProviderWallet.Proofs.HexNumber
import ProviderWallet.Proofs.StaleKeys
import ProviderWallet.Proofs.SubmissionCourse
import ProviderWallet.Proofs.UnseenCache

namespace ProviderWallet

open Text
open Curve.Secp256k1 (generator order)

theorem SecretKey.denotes_text (secret : SecretKey) :
    Hex.Denotes secret.text.toList secret.scalar := by
  have fits : secret.scalar < Nat.pow 256 32 := Nat.lt_trans secret.below_order (by decide)
  have denotes := Hex.denotes_digits (Bytes.ofNat 32 secret.scalar)
  rw [Bytes.toNat_ofNat fits] at denotes
  rw [secret.toList_text]
  exact denotes

namespace KeyText

variable {key other : KeyText} {n : Nat} {secret : SecretKey}

/-- A text writes a number in 64 digits, perhaps after the mark `0x` and with blanks around. -/
def Writes (key : KeyText) (n : Nat) : Prop :=
  ∃ mark digits, Blank.Padded key.text.toList (mark ++ digits) ∧
    (mark = [] ∨ mark = ['0', 'x']) ∧ digits.length = 64 ∧ Hex.Denotes digits n

theorem exists_mark (cs : List Char) :
    ∃ mark, cs = mark ++ body cs ∧ (mark = [] ∨ mark = ['0', 'x']) := by
  unfold body
  split
  · exact ⟨['0', 'x'], rfl, .inr rfl⟩
  · exact ⟨[], rfl, .inl rfl⟩

/-- What a text writes is found where the text is read. -/
theorem writes_iff : key.Writes n ↔
    (body (Blank.trim key.text.toList)).length = 64 ∧
      Hex.Denotes (body (Blank.trim key.text.toList)) n := by
  constructor
  · rintro ⟨mark, digits, padded, marked, length, denotes⟩
    have hex := denotes.isHexDigit
    have mark_solid : ∀ c ∈ mark, Blank.isBlank c = false := by
      rcases marked with rfl | rfl
      · exact List.forall_mem_nil _
      · exact List.forall_mem_cons.mpr ⟨rfl, List.forall_mem_singleton.mpr rfl⟩
    have trimmed : Blank.trim key.text.toList = mark ++ digits :=
      padded.trim_eq (List.forall_mem_append.mpr
        ⟨mark_solid, fun c among => (hex c among).not_blank⟩)
    have unmarked : body (mark ++ digits) = digits := by
      rcases marked with rfl | rfl
      · exact body_eq fun c among => (hex c among).ne_x
      · rfl
    rw [trimmed, unmarked]
    exact ⟨length, denotes⟩
  · rintro ⟨length, denotes⟩
    obtain ⟨mark, split, marked⟩ := exists_mark (Blank.trim key.text.toList)
    have padded := Blank.padded_trim key.text.toList
    rw [split] at padded
    exact ⟨mark, _, padded, marked, length, denotes⟩

/-- A text is read as the key whose number it writes. -/
theorem secret_eq_ok_iff : key.secret = .ok secret ↔ key.Writes secret.scalar := by
  have digits : key.Writes secret.scalar ↔ ∃ bytes,
      Hex.decodeText (String.ofList (body (Blank.trim key.text.toList))) = .ok bytes ∧
        bytes.length = 32 ∧ Bytes.toNat bytes = secret.scalar := by
    rw [writes_iff, Hex.decodeText_iff]
  rw [digits, KeyText.secret]
  constructor
  · intro holds
    split at holds
    · cases holds
    split at holds
    · cases holds
    rename_i bytes read
    split at holds
    · cases holds
    rename_i size
    split at holds
    · rename_i found known
      cases holds
      rw [SecretKey.ofNat?, Option.dite_none_right_eq_some] at known
      obtain ⟨_, same⟩ := known
      cases same
      exact ⟨bytes, read, Classical.not_not.mp size, rfl⟩
    · cases holds
  · rintro ⟨bytes, read, size, number⟩
    have filled : Blank.trim key.text.toList ≠ [] := by
      intro nothing
      rw [nothing] at read
      cases read
      cases size
    have known : SecretKey.ofNat? (Bytes.toNat bytes) = some secret := by
      rw [number]
      exact dif_pos ⟨secret.positive, secret.below_order⟩
    simp only [if_neg filled, read, size, known]
    rfl

theorem Writes.holds (writes : key.Writes n) (positive : 1 ≤ n) (below : n < order) :
    key.secret = .ok ⟨n, positive, below⟩ :=
  secret_eq_ok_iff.mpr writes

/-- A text is a key exactly if it writes the number of one. -/
theorem exists_secret_iff :
    (∃ secret, key.secret = .ok secret) ↔ ∃ n, key.Writes n ∧ 1 ≤ n ∧ n < order := by
  constructor
  · rintro ⟨secret, holds⟩
    exact ⟨secret.scalar, secret_eq_ok_iff.mp holds, secret.positive, secret.below_order⟩
  · rintro ⟨n, writes, positive, below⟩
    exact ⟨_, writes.holds positive below⟩

/-- A key writes its number in its own digits, with or without the mark. -/
theorem writes_of_shown {mark : List Char} (marked : mark = [] ∨ mark = ['0', 'x'])
    (shown : key.text.toList = mark ++ secret.text.toList) : key.Writes secret.scalar := by
  have padded : Blank.Padded key.text.toList (mark ++ secret.text.toList) :=
    ⟨[], [], by simp [shown], by simp⟩
  exact ⟨mark, _, padded, marked, secret.length_text, secret.denotes_text⟩

theorem writes_text (secret : SecretKey) : (⟨secret.text⟩ : KeyText).Writes secret.scalar :=
  writes_of_shown (.inl rfl) (List.nil_append secret.text.toList).symm

theorem writes_marked (secret : SecretKey) :
    (⟨"0x" ++ secret.text⟩ : KeyText).Writes secret.scalar :=
  writes_of_shown (.inr rfl) String.toList_append

end KeyText

namespace Submission

open Workflow

variable {s : Submission} {signer : SecretKey}

/-- A submission begins by waiting for the turn of the account of its key. -/
theorem submit_enters (known : s.key.secret = .ok signer) (timeLimit : Millis) :
    ∃ next, s.submit timeLimit = .request (.enter signer.address) next :=
  ⟨_, submit_signed known timeLimit⟩

theorem send_spelled (key : KeyText) (s : Submission) (p : Transaction.Parameters)
    (deadline : Millis) : { s with key }.send p deadline = s.send p deadline := by
  simp only [send, of, bind_eq, bind_request, bind_done, pure_eq]
  congr 1
  funext reply
  rcases reply with _ | _ | hash <;> rfl

theorem sendInTurn_spelled (key : KeyText) (s : Submission) (signer : SecretKey)
    (deadline : Millis) : { s with key }.sendInTurn signer deadline =
      s.sendInTurn signer deadline := by
  simp only [sendInTurn, send_spelled, refused]

theorem sendBefore_spelled (key : KeyText) (s : Submission) (signer : SecretKey)
    (deadline : Option Millis) : { s with key }.sendBefore signer deadline =
      s.sendBefore signer deadline := by
  cases deadline with
  | none => rfl
  | some time => exact sendInTurn_spelled key s signer time

/-- Two spellings of a key are submitted alike. -/
theorem submit_spelled {key other : KeyText} (same : key.secret = other.secret) (s : Submission)
    (timeLimit : Millis) :
    { s with key := key }.submit timeLimit = { s with key := other }.submit timeLimit := by
  simp only [submit, same, sendBefore_spelled]

end Submission

variable {σ : Type}

namespace Wallet

variable {store : Keystore σ} {w : Wallet σ} {key : KeyText} {account : Address}

/-- A key of an address that has a record is refused. -/
theorem importKey_taken {old : KeyText} (address : key.address = .ok account)
    (there : store.get w.records account.recordName = .ok (some old)) (fresh : Fresh) :
    w.importKey store fresh key = (.error (.alreadyExists account.text), w) := by
  have taken : w.isTaken store account = .ok true := by
    unfold isTaken
    split
    · rfl
    · rw [there]
      rfl
  unfold importKey
  simp only [address, taken]

/-- A key that is stored is stored in the record of its own address. -/
theorem Storing.found {fresh : Fresh} {outcome : Except Failure Address × Wallet σ}
    (storing : Storing store w fresh key outcome) (lasting : store.Lasting)
    (said : outcome.1 = .ok account) : key.address = .ok account ∧
      store.get outcome.2.records account.recordName = .ok (some key) := by
  cases storing with
  | refused f => cases said
  | failed own f f' records put => cases said
  | stored own records address put =>
    cases said
    exact ⟨address, lasting.stored put⟩

end Wallet

inductive Touches (store : Keystore σ) (task : WalletTask) (records : σ) : σ → Prop where
  | nothing : Touches store task records records
  | puts (fresh : Fresh) (account : Address) (key : KeyText) (stores : task.Stores key) :
      Touches store task records (store.put fresh records account.recordName key).2
  | deletes (account : Address) (deletes : task = .delete account) :
      Touches store task records (store.delete records account.recordName).2

namespace Touches

theorem of_storing {store : Keystore σ} {w : Wallet σ} {task : WalletTask} {fresh : Fresh}
    {key : KeyText} {outcome : Except Failure Address × Wallet σ} (stores : task.Stores key)
    (storing : Wallet.Storing store w fresh key outcome) :
    Touches store task w.records outcome.2.records := by
  have puts (account : Address) : Touches store task w.records
      (store.put fresh w.records account.recordName key).2 := .puts fresh account key stores
  cases storing with
  | refused f => exact .nothing
  | failed account f f' records put =>
    have touches := puts account
    rw [put] at touches
    exact touches
  | stored account records address put =>
    have touches := puts account
    rw [put] at touches
    exact touches

theorem run (store : Keystore σ) (w : Wallet σ) (task : WalletTask) :
    Touches store task w.records (task.run store w).2.records := by
  have finds (account : Address) :
      Touches store task w.records (w.find store account).2.records := by
    rw [Wallet.find_records]
    exact .nothing
  cases task with
  | find account => exact finds account
  | sign account message =>
    have same := w.sign_state store account message
    exact (congrArg Wallet.records same) ▸ finds account
  | reveal account =>
    have same := w.require_state store "export" account
    exact (congrArg Wallet.records same) ▸ finds account
  | importKey fresh key => exact of_storing rfl (w.importKey_storing store fresh key)
  | generate fresh secret => exact of_storing rfl (w.generate_storing store fresh secret)
  | delete account => exact .deletes account rfl
  | list => exact .nothing

end Touches

namespace Wallets

variable {store : Keystore σ} {ws : Wallets σ} {key old : KeyText} {account : Address}

/-- A key that is there is there until it is deleted. -/
theorem kept_perform (lasting : store.Lasting)
    (there : store.get ws.records account.recordName = .ok (some old)) {task : WalletTask}
    (undeleted : task ≠ .delete account) (i : Nat) :
    store.get (ws.perform store i task).2.records account.recordName = .ok (some old) := by
  have touches : Touches store task ws.records (ws.perform store i task).2.records :=
    .run store (ws.wallet i) task
  generalize (ws.perform store i task).2.records = records at touches ⊢
  cases touches with
  | nothing => exact there
  | puts fresh other key => exact lasting.kept_put fresh other key there
  | deletes other deletes =>
    refine lasting.kept_delete ?_ there
    rintro rfl
    exact undeleted deletes

theorem kept_after (lasting : store.Lasting)
    (there : store.get ws.records account.recordName = .ok (some old))
    {tasks : List (Nat × WalletTask)} (undeleted : ∀ i, (i, .delete account) ∉ tasks) :
    store.get (ws.after store tasks).records account.recordName = .ok (some old) := by
  induction tasks generalizing ws with
  | nil => exact there
  | cons step tasks ih =>
    obtain ⟨i, task⟩ := step
    have first : task ≠ .delete account := by
      rintro rfl
      exact undeleted i List.mem_cons_self
    exact ih (kept_perform lasting there first i)
      fun j among => undeleted j (List.mem_cons_of_mem _ among)

/-- Where an address has a record, to import a key of it changes nothing at all. -/
theorem import_taken (address : key.address = .ok account)
    (there : store.get ws.records account.recordName = .ok (some old)) (i : Nat) (fresh : Fresh) :
    ws.perform store i (.importKey fresh key) = (.error (.alreadyExists account.text), ws) := by
  have refused := Wallet.importKey_taken (w := ws.wallet i) address there fresh
  rw [perform, WalletTask.run, refused]
  simp [wallet, Except.map]

theorem import_reply_iff {i : Nat} {fresh : Fresh} :
    (ws.perform store i (.importKey fresh key)).1 = .ok (.stored account) ↔
      ((ws.wallet i).importKey store fresh key).1 = .ok account := by
  change ((ws.wallet i).importKey store fresh key).1.map WalletReply.stored = _ ↔ _
  cases ((ws.wallet i).importKey store fresh key).1 with
  | error f => simp [Except.map]
  | ok own => simp [Except.map]

/-- A key that is said to be stored is stored as it was given, for its own address. -/
theorem import_stored (lasting : store.Lasting) {i : Nat} {fresh : Fresh}
    (said : (ws.perform store i (.importKey fresh key)).1 = .ok (.stored account)) :
    key.address = .ok account ∧ store.get (ws.perform store i (.importKey fresh key)).2.records
      account.recordName = .ok (some key) := by
  have storing := (ws.wallet i).importKey_storing store fresh key
  exact storing.found lasting (import_reply_iff.mp said)

end Wallets

namespace KeyText

/-- What a text is to the wallets and in submissions that is the key of an account. -/
structure IsKeyOf (key : KeyText) (account : Address) : Prop where
  address : key.address = .ok account
  queue (s : Submission) (own : s.key = key) (timeLimit : Millis) :
    ∃ next, s.submit timeLimit = .request (.enter account) next
  record {σ : Type} (repository : Repository σ) (ws : Wallets σ) (i : Nat) (fresh : Fresh)
    (named : Address)
    (said : (ws.perform repository.store i (.importKey fresh key)).1 = .ok (.stored named)) :
    named = account ∧ repository.store.get
      (ws.perform repository.store i (.importKey fresh key)).2.records account.recordName =
        .ok (some key)
  taken {σ : Type} (repository : Repository σ) (ws : Wallets σ) (i : Nat) (fresh : Fresh)
    (old : KeyText)
    (there : repository.store.get ws.records account.recordName = .ok (some old)) :
    ws.perform repository.store i (.importKey fresh key) =
      (.error (.alreadyExists account.text), ws)

/-- Two texts are the same key. Once a wallet has stored one of them, no wallet stores the other,
unless the account is deleted meanwhile. -/
structure SameKey (key other : KeyText) : Prop where
  address : other.address = key.address
  submitted (s : Submission) (timeLimit : Millis) :
    { s with key := other }.submit timeLimit = { s with key := key }.submit timeLimit
  refused {σ : Type} (repository : Repository σ) (ws : Wallets σ) (i : Nat) (fresh : Fresh)
    (account : Address)
    (said : (ws.perform repository.store i (.importKey fresh key)).1 = .ok (.stored account))
    (tasks : List (Nat × WalletTask)) (undeleted : ∀ j, (j, .delete account) ∉ tasks) (j : Nat)
    (fresh' : Fresh) :
    let ws' := (ws.perform repository.store i (.importKey fresh key)).2.after repository.store tasks
    ws'.perform repository.store j (.importKey fresh' other) =
        (.error (.alreadyExists account.text), ws') ∧
      repository.store.get ws'.records account.recordName = .ok (some key)

/-- How a text is read that may write a key. -/
structure ReadByNumber (key : KeyText) : Prop where
  read : (∃ secret, key.secret = .ok secret) ↔ ∃ n, key.Writes n ∧ 1 ≤ n ∧ n < order
  invalid (nothing : ¬ ∃ n, key.Writes n ∧ 1 ≤ n ∧ n < order) :
    ∃ reason, key.secret = .error (.invalidKey reason)
  known (n : Nat) (writes : key.Writes n) (positive : 1 ≤ n) (below : n < order) :
    key.IsKeyOf (Address.ofPoint (generator.scale n))
  spelled (n : Nat) (writes : key.Writes n) (positive : 1 ≤ n) (below : n < order)
    (other : KeyText) (writes' : other.Writes n) : key.SameKey other

variable {key other : KeyText} {secret : SecretKey}

theorem isKeyOf_address (holds : key.secret = .ok secret) : key.IsKeyOf secret.address := by
  have address : key.address = .ok secret.address := by
    rw [KeyText.address, holds]
    rfl
  refine ⟨address, ?_, ?_, ?_⟩
  · rintro s rfl timeLimit
    exact s.submit_enters holds timeLimit
  · intro σ repository ws i fresh named said
    obtain ⟨own, found⟩ := Wallets.import_stored repository.lasting said
    rw [address] at own
    cases own
    exact ⟨rfl, found⟩
  · intro σ repository ws i fresh old there
    exact Wallets.import_taken address there i fresh

/-- Texts of one number are one key in all that is done with them. -/
theorem sameKey_of_secret (same : other.secret = key.secret) : key.SameKey other := by
  have address : other.address = key.address := by rw [KeyText.address, KeyText.address, same]
  refine ⟨address, fun s => s.submit_spelled same, ?_⟩
  intro σ repository ws i fresh account said tasks undeleted j fresh' ws'
  obtain ⟨own, found⟩ := Wallets.import_stored repository.lasting said
  have still := Wallets.kept_after repository.lasting found undeleted
  exact ⟨Wallets.import_taken (address.trans own) still j fresh', still⟩

end KeyText

/-- A text is a key exactly if it writes the number of one, and is invalid otherwise. All that
follows from it follows from that number: texts that write the same number are one key, and a wallet
that has it refuses to store it again, whatever its spelling. -/
theorem key_texts_read_by_number (key : KeyText) : key.ReadByNumber := by
  refine ⟨KeyText.exists_secret_iff, ?_, ?_, ?_⟩
  · intro nothing
    rw [← KeyText.exists_secret_iff] at nothing
    cases read : key.secret with
    | error f =>
      obtain ⟨reason, rfl⟩ := KeyText.secret_error read
      exact ⟨reason, rfl⟩
    | ok secret => exact absurd ⟨secret, read⟩ nothing
  · intro n writes positive below
    have own : SecretKey.address ⟨n, positive, below⟩ = Address.ofPoint (generator.scale n) := by
      rw [SecretKey.address]
    rw [← own]
    exact KeyText.isKeyOf_address (writes.holds positive below)
  · intro n writes positive below other writes'
    have holds := writes.holds positive below
    have holds' := writes'.holds positive below
    exact KeyText.sameKey_of_secret (holds'.trans holds.symm)

/-- One wallet stores a key, and another refuses it after the mark. -/
theorem marked_spelling_refused :
    let secret : SecretKey := ⟨1, by decide, by decide⟩
    let stored := (Wallets.start []).perform Keystore.memory 0
      (.importKey ⟨0, 0, 0⟩ ⟨secret.text⟩)
    stored.1 = .ok (.stored secret.address) ∧
      stored.2.perform Keystore.memory 1 (.importKey ⟨1, 1, 1⟩ ⟨"0x" ++ secret.text⟩) =
        (.error (.alreadyExists secret.address.text), stored.2) := by
  intro secret stored
  -- From here on it does not matter which key it is.
  clear_value secret
  have empty : ((Wallets.start []).wallet 0).records = Keystore.recordsOf [] := rfl
  have free := Wallet.importKey_free Keystore.memory_keeps empty secret.address_text rfl rfl
    ⟨0, 0, 0⟩
  have said : stored.1 = .ok (.stored secret.address) := Wallets.import_reply_iff.mpr free
  have bare := KeyText.writes_text secret
  have marked := KeyText.writes_marked secret
  have same := (key_texts_read_by_number _).spelled _ bare secret.positive secret.below_order _
    marked
  obtain ⟨refused, -⟩ := same.refused .memory (Wallets.start []) 0 ⟨0, 0, 0⟩ secret.address said
    [] (by simp) 1 ⟨1, 1, 1⟩
  exact ⟨said, refused⟩

end ProviderWallet
