import ProviderWallet.Proofs.CommandRuns
import ProviderWallet.Proofs.ConfigSources
import ProviderWallet.Proofs.Custody
import ProviderWallet.Proofs.SignedDigest

namespace ProviderWallet

open Keystore (Folder)
open Storage (Files)
open Text

/-- A text is that of a signature of a message, `0x` and 130 digits in lower case. They are those of
65 bytes, which verify for an account and for no other. -/
structure Attests (account : Address) (message : Bytes) (text : String) : Prop where
  marked : ∃ digits, text.toList = '0' :: 'x' :: digits ∧ digits.length = 130 ∧
    ∀ c ∈ digits, c ∈ "0123456789abcdef".toList
  verifies : ∃ bytes, Hex.decodeText (String.ofList (text.toList.drop 2)) = .ok bytes ∧
    bytes.length = 65 ∧ ∀ other, Signature.verify other bytes message = true ↔ other = account

theorem Text.Hex.toList_encodeMarked (bytes : Bytes) :
    (encodeMarked bytes).toList = '0' :: 'x' :: digits bytes := by
  simp [encodeMarked, encode]

/-- A signature from which the signer is recovered attests the message. -/
theorem Attests.of_recovered {secret : SecretKey} {message : Bytes} {s : Signature}
    (signed : secret.signDigest (Hash.Keccak.hash message) = .ok s)
    (recovered : s.signer? (Hash.Keccak.hash message) = some secret.address) :
    Attests secret.address message (Hex.encodeMarked s.bytes) := by
  have shown := Hex.toList_encodeMarked s.bytes
  refine ⟨⟨Hex.digits s.bytes, shown, ?_, ?_⟩, s.bytes, ?_, s.length_bytes, fun other => ?_⟩
  · rw [Hex.length_digits, s.length_bytes]
  · intro c among
    obtain ⟨n, small, rfl⟩ := Hex.exists_digit among
    have lower : ∀ n < 16, Hex.digit n ∈ "0123456789abcdef".toList := by decide
    exact lower n small
  · rw [shown, List.drop_succ_cons, List.drop_succ_cons, List.drop_zero]
    exact Hex.decodeText_encode s.bytes
  · rw [SecretKey.verify_signed signed, recovered, Option.some_inj, eq_comm]

/-- A wallet signs with a key that it finds. -/
theorem Wallet.sign_attests {σ : Type} {store : Keystore σ} {w : Wallet σ} {account : Address}
    {key : KeyText} {message : Bytes} (found : (w.find store account).1 = .ok (some key))
    (address : key.address = .ok account)
    (library : ∀ secret, key.secret = .ok secret →
      secret.Recoverable (Hash.Keccak.hash message)) :
    ∃ text, (w.sign store account message).1 = .ok text ∧ Attests account message text := by
  obtain ⟨secret, known, rfl⟩ := KeyText.secret_of_address address
  obtain ⟨s, signed, recovered⟩ := library secret known
  refine ⟨Hex.encodeMarked s.bytes, ?_, .of_recovered signed recovered⟩
  rw [Wallet.sign_found found known, SecretKey.signMessage, signed]
  rfl

namespace Text.Blank

/-- The end of a line is no part of a text without blanks. -/
theorem trim_line {cs : List Char} (h : ∀ c ∈ cs, isBlank c = false) :
    trim (cs ++ ['\n']) = cs := by
  have padded : Padded (cs ++ ['\n']) cs :=
    ⟨[], ['\n'], by rw [List.nil_append], List.forall_mem_singleton.mpr rfl⟩
  exact padded.trim_eq h

end Text.Blank

namespace Command

theorem addressArgument_run {written : String} {account : Address}
    (parsed : Address.parse written = .ok account) (name : String) (files : Files) :
    (addressArgument name written).run.run files = (.ok account, files) := by
  rw [addressArgument, parsed]
  rfl

namespace Session

theorem withoutMarks_eq {cs : List Char} (unmarked : 'x' ∉ cs) : withoutMarks cs = cs := by
  unfold withoutMarks
  split
  · simp at unmarked
  · rfl

/-- A signature is taken as its text or as the line that shows it. -/
theorem signatureArgument_run {account : Address} {message : Bytes} {text shown : String}
    (attests : Attests account message text) (same : shown = text ∨ shown = text ++ "\n")
    (files : Files) :
    ∃ bytes, (signatureArgument shown).run.run files = (.ok bytes, files) ∧
      ∀ other, Signature.verify other bytes message = true ↔ other = account := by
  obtain ⟨⟨digits, marked, -, lower⟩, bytes, decoded, -, verifies⟩ := attests
  have solid : ∀ c ∈ text.toList, Blank.isBlank c = false := by
    intro c among
    rw [marked, List.mem_cons, List.mem_cons] at among
    rcases among with rfl | rfl | among
    · rfl
    · rfl
    · have all : "0123456789abcdef".toList.all (fun c => !Blank.isBlank c) = true := by decide
      simpa using List.all_eq_true.mp all c (lower c among)
  have trimmed : Blank.trim shown.toList = text.toList := by
    rcases same with rfl | rfl
    · exact Blank.trim_eq solid
    · rw [String.toList_append]
      exact Blank.trim_line solid
  have unmarked : withoutMarks text.toList = text.toList.drop 2 := by
    rw [marked, withoutMarks]
    refine withoutMarks_eq fun among => ?_
    have all : 'x' ∉ "0123456789abcdef".toList := by decide
    exact all (lower 'x' among)
  refine ⟨bytes, ?_, verifies⟩
  rw [signatureArgument, trimmed, unmarked, decoded]
  rfl

variable {s : Session} {files files' : Files} {place : Storage.Place}

/-- A keystore whose folder is there is opened as it is. -/
theorem openKeystore_run (opens : s.keystore.Opens files place) :
    s.openKeystore.run.run files = (.ok s.keystore, files) := by
  obtain ⟨leads, mode, there⟩ := opens
  rw [path_keystore] at leads
  have found : files.exists? (s.config.keystorePath s.folder) = true := by
    rw [Files.exists?, Files.find_eq leads there]
    rfl
  exact openKeystore_of_ok (Folder.prepare_of_exists found)

theorem withWallet_run {α : Type} (opens : s.keystore.Opens files place)
    (step : Keystore Files → Wallet Files → Except Failure α × Wallet Files) :
    (s.withWallet step).run.run files =
      (Problem.ofFailure (step s.keystore.keystore (Wallet.ofRecords files)).1,
        (step s.keystore.keystore (Wallet.ofRecords files)).2.records) := by
  rw [withWallet_eq, Action.run_bind_ok (openKeystore_run opens)]
  rfl

variable {written words text shown : String} {account other : Address}

/-- The command that signs shows what a wallet signs. -/
theorem perform_sign (inputs : Inputs) (opens : s.keystore.Opens files place)
    (parsed : Address.parse written = .ok account)
    (signed : ((Wallet.ofRecords files).sign s.keystore.keystore account (Bytes.ofText words)).1 =
      .ok text)
    (kept : ((Wallet.ofRecords files).sign s.keystore.keystore account
      (Bytes.ofText words)).2.records = files) :
    (s.perform inputs (.sign written words)).run.run files =
      (.ok (.done (.signed text)), files) := by
  have run := withWallet_run opens fun store w => w.sign store account (Bytes.ofText words)
  rw [signed, kept] at run
  rw [perform, sign, Action.run_bind_ok (addressArgument_run parsed "address" files),
    Action.run_bind_ok run]
  rfl

/-- A signature is accepted for the account that signed, and for no other. -/
theorem perform_verify (inputs : Inputs) (opens : s.keystore.Opens files place)
    (attests : Attests account (Bytes.ofText words) text)
    (same : shown = text ∨ shown = text ++ "\n")
    (parsed : Address.parse written = .ok other) :
    (s.perform inputs (.verify written shown words)).run.run files =
      (if other = account then .ok (.done .verified)
        else .error (.plain ("signature does not match " ++ other.text)), files) := by
  obtain ⟨bytes, read, verifies⟩ := signatureArgument_run attests same files
  rw [perform, verify, Action.run_bind_ok (addressArgument_run parsed "address" files),
    Action.run_bind_ok read, Action.run_bind_ok (openKeystore_run opens)]
  by_cases signer : other = account
  · rw [if_pos ((verifies other).mpr signer), if_pos signer]
    rfl
  · rw [if_neg (mt (verifies other).mp signer), if_neg signer]
    rfl

end Session

end Command

namespace Program

open Command (Inputs Report Session Settings Task)

variable {σ : Type} {env : Environment} {settings : Settings} {files : Files} {s : Session}
  {command : Command} {inputs : Inputs}

theorem runCommand_done {report : Report}
    (loaded : (Session.load env settings.chain).run.run files = (.ok s, files))
    (performed : (s.perform inputs command).run.run files = (.ok (.done report), files))
    (peers : Http.Url → Network.Peers σ) (state : Network.State σ) :
    runCommand env inputs peers settings command files state =
      (.ofResult settings (.ok report), files, state) := by
  rw [runCommand_prepared ((prepare_run loaded).trans performed)]
  rfl

theorem runCommand_failed {p : Problem}
    (loaded : (Session.load env settings.chain).run.run files = (.ok s, files))
    (performed : (s.perform inputs command).run.run files = (.error p, files))
    (peers : Http.Url → Network.Peers σ) (state : Network.State σ) :
    runCommand env inputs peers settings command files state =
      (.ofProblem settings p, files, state) :=
  runCommand_refused ((prepare_run loaded).trans performed)

end Program

def Environment.keystore (env : Environment) (folder : String) (config : Config) : Folder :=
  Command.Session.keystore ⟨folder, config, none, env.passphrase⟩

/-- In an environment, commands find the records of a repository in the files. -/
inductive Repository.Serves (env : Environment) (files : Files) :
    {σ : Type} → Repository σ → σ → Prop where
  | folder {folder : String} {config : Config}
      (loaded : Config.load env files = (.ok (folder, config), files)) :
      Serves env files (.folder (env.keystore folder config)) files

/-- A wallet that has looked up nothing yet uses the records as they are. -/
theorem Wallets.Sound.fresh {σ : Type} {shows : σ → Cache → Prop} {held : Cache}
    {ws : Wallets σ} (sound : ws.Sound shows held) : (Wallets.start ws.records).Sound shows held :=
  ⟨sound.shown, sound.valid, sound.once, fun _ _ _ among => nomatch among⟩

/-- The command that signs prints a signature, and the one that verifies takes what was printed for
the address of the signer, and for no other. -/
def CommandsAttest (env : Environment) (files : Files) (account : Address) (words : String) :
    Prop :=
  ∃ text, Attests account (Bytes.ofText words) text ∧
    ∀ (σ : Type) (inputs : Command.Inputs) (peers : Http.Url → Network.Peers σ)
      (settings : Command.Settings) (state : Network.State σ),
      (∀ written, Address.parse written = .ok account →
        Program.runCommand env inputs peers settings (.sign written words) files state =
          (⟨.success, text ++ "\n", ""⟩, files, state)) ∧
      ∀ written shown other, Address.parse written = .ok other →
        shown = text ∨ shown = text ++ "\n" →
        Program.runCommand env inputs peers settings (.verify written shown words) files state =
          (if other = account then ⟨.success, "✓ signature is valid\n", ""⟩
            else ⟨.failure, "", Command.problemText settings.json
              (.plain ("signature does not match " ++ other.text))⟩, files, state)

/-- A command is a wallet of its own, which has looked up nothing yet. -/
theorem Wallets.Sound.commands_attest {env : Environment} {folder : String} {config : Config}
    {held : Cache} {ws : Wallets Files} {account : Address} {key : KeyText} {words : String}
    (sound : ws.Sound (env.keystore folder config).Holds held)
    (loaded : Config.load env ws.records = (.ok (folder, config), ws.records))
    (stored : (env.keystore folder config).keystore.get ws.records account.recordName =
      .ok (some key))
    (library : ∀ key secret,
      (env.keystore folder config).keystore.get ws.records account.recordName = .ok (some key) →
      key.secret = .ok secret → secret.Recoverable (Hash.Keccak.hash (Bytes.ofText words))) :
    CommandsAttest env ws.records account words := by
  have keeps := (env.keystore folder config).keystore_keeps
  obtain ⟨place, ⟨leads, there, -⟩, -⟩ := sound.shown
  have opens : (env.keystore folder config).Opens ws.records place := ⟨leads, there⟩
  have fresh := sound.fresh
  have own : (Wallets.start ws.records).wallet 0 = Wallet.ofRecords ws.records := rfl
  obtain ⟨found, result, address, known | ⟨_, ⟨⟩⟩⟩ := fresh.finds_known keeps 0 stored
  obtain ⟨-, kept, -⟩ := Wallet.find_spec (w := (Wallets.start ws.records).wallet 0) keeps
    fresh.shown fresh.valid (fresh.cached 0) account
  rw [own] at result
  rw [own, ← Wallet.sign_state _ _ _ (Bytes.ofText words)] at kept
  obtain ⟨text, signed, attests⟩ := Wallet.sign_attests result address
    fun secret => library found secret known
  refine ⟨text, attests, fun σ inputs peers settings state => ?_⟩
  let s : Command.Session := ⟨folder, config, settings.chain, env.passphrase⟩
  have same : s.keystore = env.keystore folder config := rfl
  have session : (Command.Session.load env settings.chain).run.run ws.records =
      (.ok s, ws.records) := by
    rw [Command.Session.load]
    exact (Command.Action.run_of_ok loaded _).trans rfl
  rw [← same] at opens signed kept
  constructor
  · intro written parsed
    have run := Command.Session.perform_sign inputs opens parsed signed kept
    exact Program.runCommand_done session run peers state
  · intro written shown other parsed line
    have run := Command.Session.perform_verify inputs opens attests line parsed
    by_cases signer : other = account
    · rw [if_pos signer] at run ⊢
      exact Program.runCommand_done session run peers state
    · rw [if_neg signer] at run ⊢
      exact Program.runCommand_failed session run peers state

/-- Whatever wallets did with records that nothing else changes, every wallet signs for an address
that has a record, in whatever way its key is written, and so do the commands. The signature is
verified for that address and for no other; an address is read from its digits in any case. -/
theorem signed_then_verified {σ : Type} (repository : Repository σ) (records : σ)
    (new : repository.IsNew records) (tasks : List (Nat × WalletTask)) (account : Address)
    (message : Bytes) :
    let ws := (Wallets.start records).after repository.store tasks
    (∃ key, repository.store.get ws.records account.recordName = .ok (some key)) →
    (∀ key secret, ws.Knows repository.store account key → key.secret = .ok secret →
      secret.Recoverable (Hash.Keccak.hash message)) →
    (∀ i, ∃ text, ((ws.wallet i).sign repository.store account message).1 = .ok text ∧
      Attests account message text) ∧
    (∀ env files words, Bytes.ofText words = message → repository.Serves env files ws.records →
      CommandsAttest env files account words) ∧
    ∀ marks, Address.parse (String.ofList ('0' :: 'x' :: Address.mixCase marks account.digits)) =
      .ok account := by
  intro ws stored library
  obtain ⟨shows, keeps, none_held⟩ := repository.keeps
  obtain ⟨held, sound⟩ := (Wallets.Sound.start (none_held records new)).after keeps tasks
  refine ⟨?_, ?_, fun marks => account.parse_mixCase marks⟩
  · obtain ⟨key, there⟩ := stored
    intro i
    obtain ⟨found, result, address, known⟩ := sound.finds_known keeps i there
    exact Wallet.sign_attests result address fun secret => library found secret known
  · rintro env files words rfl ⟨loaded⟩
    rename_i folder config
    have keeps := (env.keystore folder config).keystore_keeps
    obtain ⟨place, reaches, empty⟩ := new
    obtain ⟨held, sound⟩ :=
      (Wallets.Sound.start (Folder.holds_nothing reaches empty)).after keeps tasks
    obtain ⟨key, stored⟩ := stored
    exact sound.commands_attest loaded stored fun key secret known =>
      library key secret (.inl known)

/-- Where nothing is configured all is standard. -/
theorem Config.load_standard {env : Environment} {folder : String} {files : Files}
    (named : folderOf env = .ok folder) (there : files.exists? folder = true)
    (absent : files.exists? (Storage.Path.join folder "config.toml") = false)
    (unset : override env standard = standard) :
    load env files = (.ok (folder, standard), files) := by
  have prepared : prepare folder files = .ok files := by
    rw [prepare, Files.createPrivate, if_pos there]
  have read : ofFile (fileIn folder) files = .ok standard := by
    rw [ofFile, fileIn, absent, if_neg Bool.false_ne_true]
  have found : Found env files folder files standard := ⟨named, prepared, read⟩
  have loaded := found.load_positive ⟨by decide, by decide, by decide⟩
  rwa [unset] at loaded

section first

variable {folder : Folder} {files : Files} {place : Storage.Place} {key : KeyText}
  {account : Address}

def firstStored (folder : Folder) (files : Files) (place : Storage.Place) (fresh : Fresh)
    (account : Address) (key : KeyText) : Files :=
  files.insert (place ++ [account.recordName]) (folder.entryOf fresh key)

/-- The first key that is imported is in a file and in the cache of the wallet that imports it. -/
theorem Wallets.import_first (reaches : folder.Reaches files place)
    (free : ∀ name, (files.inside place).lookup name = none)
    (address : key.address = .ok account) (fresh : Fresh) :
    (Wallets.start files).after folder.keystore [(0, .importKey fresh key)] =
      ⟨Function.update (fun _ => []) 0 [(account, key)],
        firstStored folder files place fresh account key⟩ := by
  have opens : folder.Opens files place := ⟨reaches.leads, reaches.there⟩
  have admits := Folder.admits_record reaches.room account
  have put := Folder.put_free opens admits (free (Folder.stagingName _ fresh)) (free _) key
  have missing := Folder.get_missing opens admits (free _)
  rw [← Folder.keystore_put, ← firstStored] at put
  rw [← Folder.keystore_get] at missing
  have wallet : (Wallets.start files).wallet 0 = ⟨[], files⟩ := rfl
  have vacant : (⟨[], files⟩ : Wallet Files).isTaken folder.keystore account = .ok false := by
    rw [Wallet.isTaken, missing]
    rfl
  have stored := Wallet.importKey_stored address vacant put
  rw [after, List.foldl_cons, List.foldl_nil]
  dsimp only
  rw [perform, WalletTask.run, wallet, stored]
  rfl

theorem get_firstStored (reaches : folder.Reaches files place)
    (free : ∀ name, (files.inside place).lookup name = none) (fresh : Fresh) (account : Address)
    (key : KeyText) :
    folder.keystore.get (firstStored folder files place fresh account key) account.recordName =
      .ok (some key) := by
  have opens : folder.Opens files place := ⟨reaches.leads, reaches.there⟩
  have admits := Folder.admits_record reaches.room account
  have there : ((firstStored folder files place fresh account key).inside place).lookup
      account.recordName = some (folder.entryOf fresh key) := by
    rw [firstStored, Folder.inside_insert (free account.recordName), List.lookup_cons_self]
  exact Folder.get_eq (opens.insert (free account.recordName) _) admits there

/-- The first key that is imported is the only one of its address that is known. -/
theorem Wallets.knows_first (reaches : folder.Reaches files place)
    (free : ∀ name, (files.inside place).lookup name = none)
    (address : key.address = .ok account) (fresh : Fresh) {other : KeyText}
    (knows : ((Wallets.start files).after folder.keystore [(0, .importKey fresh key)]).Knows
      folder.keystore account other) : other = key := by
  rw [import_first reaches free address fresh] at knows
  rcases knows with stored | ⟨i, cached⟩
  · rw [get_firstStored reaches free fresh account key] at stored
    exact (Option.some.inj (Except.ok.inj stored)).symm
  · dsimp only at cached
    by_cases first : i = 0
    · rw [first, Function.update_self, Cache.find?, List.lookup_cons_self] at cached
      exact (Option.some.inj cached).symm
    · rw [Function.update_of_ne first] at cached
      cases cached

theorem keeps_firstStored (free : ∀ name, (files.inside place).lookup name = none) (fresh : Fresh)
    (account : Address) (key : KeyText) :
    Files.KeepsFolders files (firstStored folder files place fresh account key) := by
  have absent := free account.recordName
  rw [← Files.entryAt?_child] at absent
  exact Files.keepsFolders_insert (by simp [absent]) _

end first

/-- The key whose scalar is 1, stored in the empty folder of an environment that gives a passphrase.
Commands find it there, and every wallet signs with it. -/
theorem stored_key_attests :
    let env : Environment := ⟨some "/c", none, none, none, none, some "secret"⟩
    let repository := Repository.folder (env.keystore "/c" .standard)
    let files := Files.withFolder ["c", "keystore"]
    let secret : SecretKey := ⟨1, by decide, by decide⟩
    let ws := (Wallets.start files).after repository.store [(0, .importKey ⟨0, 0, 0⟩ ⟨secret.text⟩)]
    repository.IsNew files ∧
      (∃ key, repository.store.get ws.records secret.address.recordName = .ok (some key)) ∧
      (∀ key secret', ws.Knows repository.store secret.address key → key.secret = .ok secret' →
        secret'.Recoverable (Hash.Keccak.hash samplePayload)) ∧
      repository.Serves env ws.records ws.records ∧
      ∀ i, ∃ text,
        ((ws.wallet i).sign repository.store secret.address samplePayload).1 = .ok text ∧
          Attests secret.address samplePayload text := by
  intro env repository files secret ws
  have recoverable : secret.Recoverable (Hash.Keccak.hash samplePayload) :=
    SecretKey.recoverable_sample
  -- From here on it does not matter which key it is.
  clear_value secret
  have reaches : (env.keystore "/c" .standard).Reaches files ["c", "keystore"] :=
    ⟨by decide +kernel, ⟨0o755, rfl⟩, by decide⟩
  have new : repository.IsNew files := ⟨_, reaches, fun name => rfl⟩
  have free (name : String) : (files.inside ["c", "keystore"]).lookup name = none := rfl
  have known : ws = ⟨Function.update (fun _ => []) 0 [(secret.address, ⟨secret.text⟩)],
      firstStored (env.keystore "/c" .standard) files ["c", "keystore"] ⟨0, 0, 0⟩ secret.address
        ⟨secret.text⟩⟩ :=
    Wallets.import_first reaches free secret.address_text ⟨0, 0, 0⟩
  have there : repository.store.get ws.records secret.address.recordName =
      .ok (some ⟨secret.text⟩) := by
    rw [known]
    exact get_firstStored reaches free ⟨0, 0, 0⟩ secret.address ⟨secret.text⟩
  have library : ∀ key secret', ws.Knows repository.store secret.address key →
      key.secret = .ok secret' → secret'.Recoverable (Hash.Keccak.hash samplePayload) := by
    intro key secret' knows read
    have same := Wallets.knows_first reaches free secret.address_text ⟨0, 0, 0⟩ knows
    rw [same, secret.secret_text] at read
    exact Except.ok.inj read ▸ recoverable
  have serves : repository.Serves env ws.records ws.records := by
    have records : ws.records = firstStored (env.keystore "/c" .standard) files ["c", "keystore"]
        ⟨0, 0, 0⟩ secret.address ⟨secret.text⟩ := by
      rw [known]
    have kept : Files.KeepsFolders files ws.records := records ▸ keeps_firstStored free ..
    have other : ws.records.entryAt? ["c", "config.toml"] = none := by
      rw [records, firstStored, Files.entryAt?_insert_of_ne (by simp)]
      rfl
    have found := Files.find_eq (kept.locate (show files.locate "/c" = .ok ["c"] by decide +kernel))
      (kept.folder ["c"] 0o755 rfl)
    have missing := Files.find_missing (kept.locate
      (show files.locate "/c/config.toml" = .ok ["c", "config.toml"] by decide +kernel)) other
    refine .folder ?_
    generalize ws.records = files' at found missing
    have there : files'.exists? "/c" = true := by
      rw [Files.exists?, found]
      rfl
    have absent : files'.exists? "/c/config.toml" = false := by
      rw [Files.exists?, missing]
      rfl
    exact Config.load_standard rfl there absent rfl
  exact ⟨new, ⟨_, there⟩, library, serves,
    (signed_then_verified repository files new _ secret.address samplePayload ⟨_, there⟩
      library).1⟩

end ProviderWallet
