import ProviderWallet.Config.Reader

namespace ProviderWallet

/-- The variables of the environment that matter. An empty one counts as missing. -/
structure Environment where
  folder : Option String
  home : Option String
  endpoint : Option String
  hubUrl : Option String
  hubToken : Option String
  passphrase : Option String
  deriving DecidableEq, Repr

namespace Config

def given (setting : Option String) : Option String :=
  setting.filter (· ≠ "")

def folderOf (env : Environment) : Except Problem String :=
  match given env.folder, env.home with
  | some folder, _ => .ok folder
  | none, some home => .ok (Storage.Path.join home ".swan/computing")
  | none, none => .error (.plain "unable to determine home directory")

def prepare (folder : String) (files : Storage.Files) : Except Problem Storage.Files :=
  match files.createPrivate folder with
  | .ok files => .ok files
  | .error fault =>
    .error (.during ("failed to create config directory: " ++ folder) (.plain fault.message))

def setEndpoint (name url : String) : List (String × String) → List (String × String)
  | [] => [(name, url)]
  | (other, old) :: rest =>
    if other = name then (name, url) :: rest else (other, old) :: setEndpoint name url rest

/-- The configuration with the values that the environment gives. An endpoint is that of the chain
which is meant unless another is named. -/
def override (env : Environment) (config : Config) : Config where
  chain :=
    match given env.endpoint with
    | none => config.chain
    | some url =>
      { config.chain with
        endpoints := setEndpoint config.chain.default url config.chain.endpoints }
  contracts := config.contracts
  hub :=
    { url := (given env.hubUrl).getD config.hub.url
      token := (given env.hubToken).getD config.hub.token }
  keys := config.keys

/-- The configuration in a file; without a file all is standard. -/
def ofFile (path : String) (files : Storage.Files) : Except Problem Config :=
  if files.exists? path then
    match files.readText path with
    | .error fault =>
      .error (.during ("failed to read config file: " ++ path) (.plain fault.message))
    | .ok content =>
      match read? content with
      | some config => .ok config
      | none =>
        .error (.during ("failed to parse config file: " ++ path)
          (.plain "not a configuration in TOML"))
  else .ok standard

def ofFolder (env : Environment) (folder : String) (files : Storage.Files) :
    Except Problem Config := do
  let path := Storage.Path.join folder "config.toml"
  let config := override env (← ofFile path files)
  Problem.whileDoing ("invalid configuration in " ++ path) config.validate
  return config

/-- Loads the configuration. Its folder comes into being even if that fails. -/
def load (env : Environment) (files : Storage.Files) :
    Except Problem (String × Config) × Storage.Files :=
  match folderOf env with
  | .error p => (.error p, files)
  | .ok folder =>
    match prepare folder files with
    | .error p => (.error p, files)
    | .ok files => ((ofFolder env folder files).map (folder, ·), files)

end Config

end ProviderWallet
