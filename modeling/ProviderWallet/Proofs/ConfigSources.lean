import ProviderWallet.Config.Load

namespace ProviderWallet.Config

open Storage (Files)
open Text.Quoted (quote)
open Toml (Value)

inductive Part where
  | chain
  | contract
  | hub
  | wallet

namespace Part

def name : Part → String
  | chain => "chain"
  | contract => "contract"
  | hub => "hub"
  | wallet => "wallet"

def fields : Part → List String
  | chain => ["default", "rpc"]
  | contract => ["collateral", "fcp_collateral", "token", "cp_account"]
  | hub => ["server_url", "access_token"]
  | wallet =>
    ["keystore_dir", "poll_interval_secs", "confirmation_timeout_secs", "operation_timeout_secs"]

end Part

section document

variable {entries : List (String × Value)} {part : Part} {name : String} {α : Type}
  {read? : Value → Option α} {other value : α}

def fieldsIn (entries : List (String × Value)) (part : Part) : List (String × Value) :=
  ((entries.lookup part.name).bind (fieldsOf? part.fields)).getD []

/-- A value is the one that a document gives to a field, or the standard one if it gives none. -/
inductive IsField (entries : List (String × Value)) (part : Part) (name : String)
    (read? : Value → Option α) (other value : α) : Prop where
  | given (v : Value) (there : (fieldsIn entries part).lookup name = some v)
      (read : read? v = some value)
  | standard (missing : (fieldsIn entries part).lookup name = none) (same : value = other)

theorem IsField.of_fieldOr
    (read : fieldOr (fieldsIn entries part) name other read? = some value) :
    IsField entries part name read? other value := by
  unfold fieldOr at read
  split at read
  · rename_i missing
    exact .standard missing (Option.some.inj read).symm
  · rename_i v there
    exact .given v there read

/-- A table that a document does not have is read as one without fields. -/
theorem fields_of_table (part : Part) {table? : Value → Option α}
    {record? : List (String × Value) → Option α}
    (read : fieldOr entries part.name other table? = some value)
    (opens : ∀ v, table? v = (fieldsOf? part.fields v).bind record?)
    (empty : record? [] = some other) : record? (fieldsIn entries part) = some value := by
  unfold fieldOr at read
  unfold fieldsIn
  split at read
  · rename_i missing
    rw [missing]
    exact empty.trans read
  · rename_i v there
    rw [opens v] at read
    obtain ⟨fields, known, read⟩ := Option.bind_eq_some_iff.mp read
    rw [there, Option.bind_some, known]
    exact read

structure ReadFrom (entries : List (String × Value)) (config : Config) : Prop where
  default : IsField entries .chain "default" text? standard.chain.default config.chain.default
  endpoints : IsField entries .chain "rpc" texts? standard.chain.endpoints config.chain.endpoints
  collateral : IsField entries .contract "collateral" text? standard.contracts.collateral
    config.contracts.collateral
  tokenCollateral : IsField entries .contract "fcp_collateral" text?
    standard.contracts.tokenCollateral config.contracts.tokenCollateral
  token : IsField entries .contract "token" text? standard.contracts.token config.contracts.token
  account : IsField entries .contract "cp_account" text? standard.contracts.account
    config.contracts.account
  hubUrl : IsField entries .hub "server_url" text? standard.hub.url config.hub.url
  hubToken : IsField entries .hub "access_token" text? standard.hub.token config.hub.token
  folder : IsField entries .wallet "keystore_dir" text? standard.keys.folder config.keys.folder
  pollInterval : IsField entries .wallet "poll_interval_secs" nat? standard.keys.pollInterval
    config.keys.pollInterval
  confirmationTimeout : IsField entries .wallet "confirmation_timeout_secs" nat?
    standard.keys.confirmationTimeout config.keys.confirmationTimeout
  operationTimeout : IsField entries .wallet "operation_timeout_secs" nat?
    standard.keys.operationTimeout config.keys.operationTimeout

/-- A configuration that is read has each field as the document has it. -/
theorem readFrom_of_ofEntries? {config : Config} (read : ofEntries? entries = some config) :
    ReadFrom entries config := by
  simp only [ofEntries?, Option.bind_eq_bind, Option.bind_eq_some_iff, Option.pure_def,
    Option.some.injEq] at read
  obtain ⟨chain, inChain, contracts, inContracts, hub, inHub, keys, inKeys, rfl⟩ := read
  have inChain := fields_of_table .chain inChain (fun _ => rfl) rfl
  have inContracts := fields_of_table .contract inContracts (fun _ => rfl) rfl
  have inHub := fields_of_table .hub inHub (fun _ => rfl) rfl
  have inKeys := fields_of_table .wallet inKeys (fun _ => rfl) rfl
  simp only [Option.bind_eq_bind, Option.bind_eq_some_iff, Option.pure_def, Option.some.injEq]
    at inChain inContracts inHub inKeys
  obtain ⟨default, inDefault, endpoints, inEndpoints, rfl⟩ := inChain
  obtain ⟨collateral, inCollateral, tokenCollateral, inTokenCollateral, token, inToken, account,
    inAccount, rfl⟩ := inContracts
  obtain ⟨url, inUrl, hubToken, inHubToken, rfl⟩ := inHub
  obtain ⟨folder, inFolder, interval, inInterval, confirmation, inConfirmation, operation,
    inOperation, rfl⟩ := inKeys
  exact ⟨.of_fieldOr inDefault, .of_fieldOr inEndpoints, .of_fieldOr inCollateral,
    .of_fieldOr inTokenCollateral, .of_fieldOr inToken, .of_fieldOr inAccount, .of_fieldOr inUrl,
    .of_fieldOr inHubToken, .of_fieldOr inFolder, .of_fieldOr inInterval,
    .of_fieldOr inConfirmation, .of_fieldOr inOperation⟩

end document

section endpoints

variable {config : Config} {chain : Option String} {name other url : String}
  {endpoints : List (String × String)}

theorem lookup_setEndpoint_self (name url : String) (endpoints : List (String × String)) :
    (setEndpoint name url endpoints).lookup name = some url := by
  induction endpoints with
  | nil => exact List.lookup_cons_self
  | cons entry rest ih =>
    obtain ⟨other, old⟩ := entry
    rw [setEndpoint]
    split
    · exact List.lookup_cons_self
    · rename_i differ
      rw [List.lookup_cons, beq_false_of_ne (Ne.symm differ)]
      exact ih

theorem lookup_setEndpoint_of_ne (differ : other ≠ name) (url : String)
    (endpoints : List (String × String)) :
    (setEndpoint name url endpoints).lookup other = endpoints.lookup other := by
  induction endpoints with
  | nil => rw [setEndpoint, List.lookup_cons, beq_false_of_ne differ]
  | cons entry rest ih =>
    obtain ⟨first, old⟩ := entry
    rw [setEndpoint]
    split
    · rename_i same
      subst same
      rw [List.lookup_cons, List.lookup_cons, beq_false_of_ne differ]
    · rw [List.lookup_cons, List.lookup_cons, ih]

/-- What is said of the node of a chain with an entry: the entry, or that there is none. An empty
entry is none. -/
inductive Located (name : String) : (entry : Option String) → Except Problem String → Prop where
  | entry (url : String) (filled : url ≠ "") : Located name (some url) (.ok url)
  | nowhere (entry : Option String) (missing : entry = none ∨ entry = some "") :
      Located name entry (.error (.plain ("no RPC endpoint configured for chain " ++ quote name)))

theorem endpoint_located (config : Config) (chain : Option String) :
    Located (chain.getD config.chain.default)
      (config.chain.endpoints.lookup (chain.getD config.chain.default))
      (config.endpoint chain) := by
  unfold endpoint
  dsimp only
  generalize config.chain.endpoints.lookup (chain.getD config.chain.default) = found
  cases found with
  | none => exact .nowhere none (.inl rfl)
  | some url =>
    dsimp only
    split
    · rename_i empty
      exact .nowhere (some url) (.inr (congrArg some empty))
    · rename_i filled
      exact .entry url filled

theorem endpoint_of_lookup (there : config.chain.endpoints.lookup
    (chain.getD config.chain.default) = some url) (filled : url ≠ "") :
    config.endpoint chain = .ok url := by
  simp only [endpoint, there, if_neg filled]

end endpoints

section timings

variable {config : Config} {field : String}

structure Keys.Positive (keys : Keys) : Prop where
  pollInterval : 0 < keys.pollInterval
  confirmationTimeout : 0 < keys.confirmationTimeout
  operationTimeout : 0 < keys.operationTimeout

/-- The first of the timings that is zero, by the name of its field. -/
inductive Keys.FirstZero (keys : Keys) : (field : String) → Prop where
  | pollInterval (zero : keys.pollInterval = 0) : FirstZero keys "wallet.poll_interval_secs"
  | confirmationTimeout (poll : 0 < keys.pollInterval) (zero : keys.confirmationTimeout = 0) :
      FirstZero keys "wallet.confirmation_timeout_secs"
  | operationTimeout (poll : 0 < keys.pollInterval) (confirmation : 0 < keys.confirmationTimeout)
      (zero : keys.operationTimeout = 0) : FirstZero keys "wallet.operation_timeout_secs"

/-- Either all timings are positive, or one is the first that is zero. -/
theorem Keys.positive_or_zero (keys : Keys) : keys.Positive ∨ ∃ field, keys.FirstZero field := by
  rcases Nat.eq_zero_or_pos keys.pollInterval with zero | poll
  · exact .inr ⟨_, .pollInterval zero⟩
  rcases Nat.eq_zero_or_pos keys.confirmationTimeout with zero | confirmation
  · exact .inr ⟨_, .confirmationTimeout poll zero⟩
  rcases Nat.eq_zero_or_pos keys.operationTimeout with zero | operation
  · exact .inr ⟨_, .operationTimeout poll confirmation zero⟩
  · exact .inl ⟨poll, confirmation, operation⟩

theorem validate_of_positive (positive : config.keys.Positive) : config.validate = .ok () := by
  obtain ⟨poll, confirmation, operation⟩ := positive
  simp [validate, timings, Nat.ne_of_gt poll, Nat.ne_of_gt confirmation, Nat.ne_of_gt operation]

theorem validate_of_zero (zero : config.keys.FirstZero field) :
    config.validate = .error (.plain (field ++ " must be greater than zero")) := by
  generalize known : config.keys = keys at zero
  cases zero with
  | pollInterval zero => simp [validate, timings, known, zero]
  | confirmationTimeout poll zero => simp [validate, timings, known, Nat.ne_of_gt poll, zero]
  | operationTimeout poll confirmation zero =>
    simp [validate, timings, known, Nat.ne_of_gt poll, Nat.ne_of_gt confirmation, zero]

end timings

def fileIn (folder : String) : String :=
  Storage.Path.join folder "config.toml"

/-- The environment names a folder, which is there when it has been prepared, and the file in it can
be read if there is one. `written` is what the file says, with standard values for the rest. -/
structure Found (env : Environment) (files : Files) (folder : String) (prepared : Files)
    (written : Config) : Prop where
  named : folderOf env = .ok folder
  there : prepare folder files = .ok prepared
  read : ofFile (fileIn folder) prepared = .ok written

/-- A setting of the environment goes before another value unless it is missing or empty. -/
inductive Prefers (setting : Option String) (other value : String) : Prop where
  | given (set : setting = some value) (filled : value ≠ "")
  | other (unset : setting = none ∨ setting = some "") (same : value = other)

def zeroTiming (folder field : String) : Problem :=
  .during ("invalid configuration in " ++ fileIn folder)
    (.plain (field ++ " must be greater than zero"))

section loading

variable {env env' : Environment} {files prepared : Files} {folder : String}
  {written config config' : Config} {setting : Option String} {other url field : String}

theorem given_eq_some_iff : given setting = some url ↔ setting = some url ∧ url ≠ "" := by
  simp [given, Option.filter_eq_some_iff]

theorem given_eq_none_iff : given setting = none ↔ setting = none ∨ setting = some "" := by
  cases setting <;> simp [given, Option.filter_eq_none_iff]

theorem prefers_getD (setting : Option String) (other : String) :
    Prefers setting other ((given setting).getD other) := by
  cases known : given setting with
  | none => exact .other (given_eq_none_iff.mp known) rfl
  | some value =>
    obtain ⟨set, filled⟩ := given_eq_some_iff.mp known
    exact .given set filled

theorem Prefers.eq_given {value : String} (prefers : Prefers setting other value)
    (set : setting = some url) (filled : url ≠ "") : value = url := by
  cases prefers with
  | given set' => exact Option.some.inj (set'.symm.trans set)
  | other unset =>
    rw [set] at unset
    rcases unset with none | empty
    · cases none
    · exact absurd (Option.some.inj empty) filled

theorem Prefers.eq_other {value : String} (prefers : Prefers setting other value)
    (unset : setting = none ∨ setting = some "") : value = other := by
  cases prefers with
  | given set filled =>
    rw [set] at unset
    rcases unset with none | empty
    · cases none
    · exact absurd (Option.some.inj empty) filled
  | other _ same => exact same

namespace Found

/-- Once the file is found and read, only a timing can be wrong. -/
theorem load_eq (found : Found env files folder prepared written) :
    load env files = ((Problem.whileDoing ("invalid configuration in " ++ fileIn folder)
      (override env written).validate).map fun () => (folder, override env written), prepared) := by
  obtain ⟨named, there, read⟩ := found
  unfold fileIn at read
  simp only [load, named, there, ofFolder, read, fileIn, bind, Except.bind]
  cases (override env written).validate <;> rfl

theorem load_positive (found : Found env files folder prepared written)
    (positive : written.keys.Positive) :
    load env files = (.ok (folder, override env written), prepared) := by
  have valid : (override env written).validate = .ok () := validate_of_positive positive
  rw [found.load_eq, valid]
  rfl

/-- The first timing that is zero is named, with the file. -/
theorem load_zero (found : Found env files folder prepared written)
    (zero : written.keys.FirstZero field) :
    load env files = (.error (zeroTiming folder field), prepared) := by
  have refused : (override env written).validate =
      .error (.plain (field ++ " must be greater than zero")) := validate_of_zero zero
  rw [found.load_eq, refused]
  rfl

theorem of_load (loaded : load env files = (.ok (folder, config), prepared)) :
    ∃ written, Found env files folder prepared written := by
  unfold load at loaded
  cases named : folderOf env with
  | error p =>
    rw [named] at loaded
    cases loaded
  | ok place =>
    cases there : prepare place files with
    | error p =>
      simp only [named, there] at loaded
      cases loaded
    | ok files' =>
      simp only [named, there, Prod.mk.injEq] at loaded
      obtain ⟨result, rfl⟩ := loaded
      cases read : ofFile (fileIn place) files' with
      | error p =>
        unfold fileIn at read
        simp only [ofFolder, read, bind, Except.bind] at result
        cases result
      | ok written =>
        cases loads : ofFolder env place files' with
        | error p =>
          rw [loads] at result
          cases result
        | ok =>
          rw [loads] at result
          cases result
          exact ⟨written, named, there, read⟩

/-- A configuration that was loaded has no timing that is zero. -/
theorem loaded_eq (found : Found env files folder prepared written)
    (loaded : load env files = (.ok (folder, config), prepared)) :
    written.keys.Positive ∧ config = override env written := by
  rcases written.keys.positive_or_zero with positive | ⟨field, zero⟩
  · rw [found.load_positive positive] at loaded
    cases loaded
    exact ⟨positive, rfl⟩
  · rw [found.load_zero zero] at loaded
    cases loaded

theorem zero_of_load (found : Found env files folder prepared written)
    (failed : load env files = (.error (zeroTiming folder field), prepared)) :
    written.keys.FirstZero field := by
  rcases written.keys.positive_or_zero with positive | ⟨other, zero⟩
  · rw [found.load_positive positive] at failed
    cases failed
  · rw [found.load_zero zero] at failed
    simp only [zeroTiming, Prod.mk.injEq, Except.error.injEq, Problem.during.injEq,
      Problem.plain.injEq, true_and, and_true] at failed
    rw [String.append_left_inj] at failed
    exact failed ▸ zero

/-- What was found does not depend on the variables that take the place of values. -/
theorem of_same (found : Found env files folder prepared written)
    (same : env'.folder = env.folder ∧ env'.home = env.home) :
    Found env' files folder prepared written := by
  obtain ⟨named, there, read⟩ := found
  refine ⟨?_, there, read⟩
  rw [folderOf, same.1, same.2]
  exact named

end Found

theorem override_default (env : Environment) (config : Config) :
    (override env config).chain.default = config.chain.default := by
  unfold override
  dsimp only
  split <;> rfl

theorem lookup_override_default (set : given env.endpoint = some url) :
    (override env config).chain.endpoints.lookup config.chain.default = some url := by
  simp only [override, set]
  exact lookup_setEndpoint_self ..

theorem lookup_override {name : String}
    (aside : given env.endpoint = none ∨ name ≠ config.chain.default) :
    (override env config).chain.endpoints.lookup name = config.chain.endpoints.lookup name := by
  cases known : given env.endpoint with
  | none => simp only [override, known]
  | some url =>
    have differ := aside.resolve_left (by simp [known])
    simp only [override, known]
    exact lookup_setEndpoint_of_ne differ ..

/-- A configuration that was loaded: what was found, with the settings of the environment in place
of three values. -/
structure Merged (env : Environment) (written config : Config) : Prop where
  default : config.chain.default = written.chain.default
  endpoint_given (url : String) (set : env.endpoint = some url) (filled : url ≠ "") :
    config.endpoint none = .ok url
  endpoint_unset (unset : env.endpoint = none ∨ env.endpoint = some "") :
    Located written.chain.default (written.chain.endpoints.lookup written.chain.default)
      (config.endpoint none)
  endpoint_named (name : String) (other : name ≠ written.chain.default) :
    Located name (written.chain.endpoints.lookup name) (config.endpoint (some name))
  hubUrl : Prefers env.hubUrl written.hub.url config.hub.url
  hubToken : Prefers env.hubToken written.hub.token config.hub.token
  contracts : config.contracts = written.contracts
  keys : config.keys = written.keys
  positive : config.keys.Positive

/-- Three variables take the place of three values and touch no other. -/
theorem merged_override (positive : written.keys.Positive) :
    Merged env written (override env written) where
  default := override_default env written
  endpoint_given url set filled := by
    apply endpoint_of_lookup _ filled
    rw [Option.getD_none, override_default,
      lookup_override_default (given_eq_some_iff.mpr ⟨set, filled⟩)]
  endpoint_unset unset := by
    have located := endpoint_located (override env written) none
    rwa [Option.getD_none, override_default,
      lookup_override (.inl (given_eq_none_iff.mpr unset))] at located
  endpoint_named name other := by
    have located := endpoint_located (override env written) (some name)
    rwa [Option.getD_some, lookup_override (.inr other)] at located
  hubUrl := prefers_getD ..
  hubToken := prefers_getD ..
  contracts := rfl
  keys := rfl
  positive := positive

/-- Configurations that only differ in the node of the default chain and in the hub. -/
structure Alike (config config' : Config) : Prop where
  default : config'.chain.default = config.chain.default
  endpoint (name : String) (other : name ≠ config.chain.default) :
    config'.endpoint (some name) = config.endpoint (some name)
  collateral : config'.collateralAddress = config.collateralAddress
  tokenCollateral : config'.tokenCollateralAddress = config.tokenCollateralAddress
  token : config'.tokenAddress = config.tokenAddress
  account (folder : String) (files : Files) :
    config'.accountAddress folder files = config.accountAddress folder files
  keystore (folder : String) : config'.keystorePath folder = config.keystorePath folder
  timings : config'.timings = config.timings
  waiter : config'.waiter = config.waiter
  timeLimit : config'.timeLimit = config.timeLimit

/-- The environment makes no difference to anything but the node of the default chain and the hub.
-/
theorem alike_override (env env' : Environment) (config : Config) :
    Alike (override env config) (override env' config) where
  default := by rw [override_default, override_default]
  endpoint name other := by
    rw [override_default] at other
    simp only [endpoint, Option.getD_some, lookup_override (.inr other)]
  collateral := rfl
  tokenCollateral := rfl
  token := rfl
  account _ _ := rfl
  keystore _ := rfl
  timings := rfl
  waiter := rfl
  timeLimit := rfl

/-- There is no file and all is standard, or there is one and the fields are as it says. -/
theorem file_of_ofFile {path : String} (read : ofFile path files = .ok written) :
    files.exists? path = false ∧ written = standard ∨
      ∃ content entries, files.exists? path = true ∧ files.readText path = .ok content ∧
        Toml.read? content = some entries ∧ ReadFrom entries written := by
  unfold ofFile at read
  split at read
  · rename_i there
    split at read
    · cases read
    rename_i content text
    split at read
    · rename_i config document
      cases read
      obtain ⟨entries, parsed, fields⟩ := Option.bind_eq_some_iff.mp document
      exact .inr ⟨content, entries, there, text, parsed, readFrom_of_ofEntries? fields⟩
    · cases read
  · rename_i missing
    cases read
    exact .inl ⟨Bool.eq_false_iff.mpr missing, rfl⟩

end loading

/-- What becomes of a configuration that was found, in its own environment and in others. -/
structure FromSources (env : Environment) (files : Files) (folder : String) (prepared : Files)
    (written : Config) : Prop where
  file : prepared.exists? (fileIn folder) = false ∧ written = standard ∨
    ∃ content entries, prepared.exists? (fileIn folder) = true ∧
      prepared.readText (fileIn folder) = .ok content ∧ Toml.read? content = some entries ∧
      ReadFrom entries written
  loads : (∃ config, load env files = (.ok (folder, config), prepared)) ↔ written.keys.Positive
  fails (field : String) : load env files = (.error (zeroTiming folder field), prepared) ↔
    written.keys.FirstZero field
  either : written.keys.Positive ∨ ∃ field, written.keys.FirstZero field
  merged (config : Config) (loaded : load env files = (.ok (folder, config), prepared)) :
    Merged env written config
  alike (env' : Environment) (same : env'.folder = env.folder ∧ env'.home = env.home)
    (config : Config) (loaded : load env files = (.ok (folder, config), prepared)) :
    ∃ config', load env' files = (.ok (folder, config'), prepared) ∧ Alike config config'

/-- A configuration is loaded from a file that can be read, and the variables of the environment go
before it. It is refused for a timing that is zero, and for nothing else. -/
theorem from_file_and_environment (env : Environment) (files : Files) :
    (∀ folder config prepared, load env files = (.ok (folder, config), prepared) →
      ∃ written, Found env files folder prepared written) ∧
    ∀ folder prepared written, Found env files folder prepared written →
      FromSources env files folder prepared written := by
  refine ⟨fun folder config prepared loaded => Found.of_load loaded, ?_⟩
  intro folder prepared written found
  refine ⟨file_of_ofFile found.read, ⟨?_, ?_⟩, ?_, written.keys.positive_or_zero, ?_, ?_⟩
  · rintro ⟨config, loaded⟩
    exact (found.loaded_eq loaded).1
  · intro positive
    exact ⟨override env written, found.load_positive positive⟩
  · intro field
    exact ⟨found.zero_of_load, found.load_zero⟩
  · intro config loaded
    obtain ⟨positive, rfl⟩ := found.loaded_eq loaded
    exact merged_override positive
  · intro env' same config loaded
    obtain ⟨positive, rfl⟩ := found.loaded_eq loaded
    exact ⟨override env' written, (found.of_same same).load_positive positive,
      alike_override env env' written⟩

/-- A file that names a chain without a node, and a variable that gives it one. -/
theorem unknown_chain_from_environment :
    let env : Environment :=
      ⟨some "/c", none, some "http://127.0.0.1:8545", some "", some "secret", none⟩
    let document := "[chain]\ndefault = \"devnet\"\n\n[hub]\nserver_url = \"http://hub\"\n"
    let files := (Files.withFolder ["c"]).insert ["c", "config.toml"]
      (.file 0o644 (Bytes.ofText document))
    ∃ config, load env files = (.ok ("/c", config), files) ∧
      config.endpoint none = .ok "http://127.0.0.1:8545" ∧ config.hub.url = "http://hub" ∧
      config.hub.token = "secret" ∧ config.keys = standard.keys := by
  intro env document files
  let written : Config :=
    { standard with
      chain := { standard.chain with default := "devnet" }
      hub := ⟨"http://hub", ""⟩ }
  have folder : files.exists? "/c" = true := by decide +kernel
  have there : files.exists? (fileIn "/c") = true := by decide +kernel
  have text : (files.readText (fileIn "/c")).toOption = some document := by decide +kernel
  have parsed : read? document = some written := by decide +kernel
  have prepared : prepare "/c" files = .ok files := by
    rw [prepare, Files.createPrivate, if_pos folder]
  have read : ofFile (fileIn "/c") files = .ok written := by
    rw [ofFile, if_pos there]
    cases known : files.readText (fileIn "/c") with
    | error fault =>
      rw [known] at text
      cases text
    | ok content =>
      rw [known] at text
      cases text
      simp only [parsed]
  have sources := (from_file_and_environment env files).2 "/c" files written ⟨rfl, prepared, read⟩
  obtain ⟨config, loaded⟩ := sources.loads.mpr ⟨by decide, by decide, by decide⟩
  have merged := sources.merged config loaded
  refine ⟨config, loaded, merged.endpoint_given _ rfl (by decide), ?_, ?_, merged.keys⟩
  · exact merged.hubUrl.eq_other (.inr rfl)
  · exact merged.hubToken.eq_given rfl (by decide)

end ProviderWallet.Config
