import ProviderWallet.Command.Arguments
import ProviderWallet.Command.Basic
import ProviderWallet.Decimal

namespace ProviderWallet.Command

def programName : String := "cpwallet"

def versionText : String := programName ++ " 0.1.0"

/-- A number from zero to a limit, in digits that may follow a sign. -/
def number? (limit : UInt8) (s : String) : Option UInt8 :=
  let (isNegative, digits) := match s.toList with
    | '+' :: cs => (false, cs)
    | '-' :: cs => (true, cs)
    | cs => (false, cs)
  match Decimal.read? digits with
  | none => none
  | some n =>
    if n ≤ limit.toNat ∧ (isNegative = false ∨ n = 0) then some (UInt8.ofNat n) else none

def anything : Check := fun _ => true

def isPath : Check := fun s => s ≠ ""

def isKind : Check := fun s => (Collateral.Kind.parse s).toOption.isSome

def isNumber (limit : UInt8) : Check := fun s => (number? limit s).isSome

def formOf (flags : List String) (options : List (String × Check)) (places : List Check)
    (isOpen : Bool) : Form :=
  ⟨"json" :: flags, ("chain", anything) :: options, some places, isOpen, false⟩

def groupForm (hasVersion : Bool) : Form :=
  ⟨["json"], [("chain", anything)], none, false, hasVersion⟩

def Found.kind? (found : Found) : Option Collateral.Kind :=
  match found.option? "type" with
  | none => some .token
  | some s => (Collateral.Kind.parse s).toOption

structure Entry where
  group : String
  name : String
  shown : String
  form : Form
  /-- The command, unless an argument is missing. -/
  command? : Found → Option Command

def walletEntries : List Entry :=
  [⟨"wallet", "new", "", formOf [] [] [] false, fun _ => some .newKey⟩,
   ⟨"wallet", "list", "[--token]", formOf ["token"] [] [] false,
    fun f => some (.listKeys (f.has "token"))⟩,
   ⟨"wallet", "import", "[PATH]", formOf [] [] [isPath] false,
    fun f => some (.importKey (f.place? 0))⟩,
   ⟨"wallet", "export", "<ADDRESS>", formOf [] [] [anything] false,
    fun f => return .revealKey (← f.place? 0)⟩,
   ⟨"wallet", "delete", "<ADDRESS> [--really-do-it]",
    formOf ["really-do-it"] [] [anything] false,
    fun f => return .deleteKey (← f.place? 0) (f.has "really-do-it")⟩,
   ⟨"wallet", "sign", "<ADDRESS> <MESSAGE>", formOf [] [] [anything, anything] false,
    fun f => return .sign (← f.place? 0) (← f.place? 1)⟩,
   ⟨"wallet", "verify", "<ADDRESS> <SIGNATURE> <MESSAGE>",
    formOf [] [] [anything, anything, anything] false,
    fun f => return .verify (← f.place? 0) (← f.place? 1) (← f.place? 2)⟩,
   ⟨"wallet", "send", "--from <FROM> <TO> <AMOUNT>",
    formOf [] [("from", anything)] [anything, anything] false,
    fun f => return .send (← f.option? "from") (← f.place? 0) (← f.place? 1)⟩]

def collateralEntries : List Entry :=
  [⟨"collateral", "add", "--from <FROM> <AMOUNT> [--type <TYPE>]",
    formOf [] [("from", anything), ("type", isKind)] [anything] false,
    fun f => return .addCollateral (← f.option? "from") (← f.place? 0) (← f.kind?)⟩,
   ⟨"collateral", "withdraw", "--owner <OWNER> <AMOUNT> [--type <TYPE>]",
    formOf [] [("owner", anything), ("type", isKind)] [anything] false,
    fun f => return .withdrawCollateral (← f.option? "owner") (← f.place? 0) (← f.kind?)⟩,
   ⟨"collateral", "send", "--from <FROM> <TO> <AMOUNT>",
    formOf [] [("from", anything)] [anything, anything] false,
    fun f => return .sendCollateral (← f.option? "from") (← f.place? 0) (← f.place? 1)⟩,
   ⟨"collateral", "info", "[--type <TYPE>]", formOf [] [("type", isKind)] [] false,
    fun f => return .listCollateral (← f.kind?)⟩]

def ownerOption : String := "owner-address"

def accountEntries : List Entry :=
  [⟨"account", "info", "", formOf [] [] [] false, fun _ => some .showAccount⟩,
   ⟨"account", "change-owner", "--owner-address <ADDRESS> <NEW_OWNER>",
    formOf [] [(ownerOption, anything)] [anything] false,
    fun f => return .changeAccount (← f.option? ownerOption) (.owner (← f.place? 0))⟩,
   ⟨"account", "change-beneficiary",
    "--owner-address <ADDRESS> <BENEFICIARY> [--quota <QUOTA>] [--expiration <EXPIRATION>]",
    formOf [] [(ownerOption, anything), ("quota", anything), ("expiration", anything)]
      [anything] false,
    fun f => do
      let signer ← f.option? ownerOption
      let account ← f.place? 0
      return .changeAccount signer (.beneficiary account ((f.option? "quota").getD "0")
        ((f.option? "expiration").getD "0"))⟩,
   ⟨"account", "change-multiaddrs", "--owner-address <ADDRESS> <MULTI_ADDRESSES>...",
    formOf [] [(ownerOption, anything)] [anything] true,
    fun f => do
      let signer ← f.option? ownerOption
      let _ ← f.place? 0
      return .changeAccount signer (.addresses f.places)⟩,
   ⟨"account", "change-ubi-flag", "--owner-address <ADDRESS> <FLAG>",
    formOf [] [(ownerOption, anything)] [isNumber 1] false,
    fun f => do
      let signer ← f.option? ownerOption
      let flag ← number? 1 (← f.place? 0)
      return .changeAccount signer (.flag flag)⟩,
   ⟨"account", "submit-proof", "--from <FROM> <TASK_ID> <TASK_TYPE> <ZK_TYPE> <PROOF>",
    formOf [] [("from", anything)] [anything, isNumber 255, anything, anything] false,
    fun f => do
      let signer ← f.option? "from"
      let task ← f.place? 0
      let taskType ← number? 255 (← f.place? 1)
      return .changeAccount signer (.proof task taskType (← f.place? 2) (← f.place? 3))⟩]

def entries : List Entry :=
  walletEntries ++ collateralEntries ++ accountEntries

def groups : List String :=
  ["wallet", "collateral", "account"]

def find? (group name : String) : Option Entry :=
  entries.find? fun e => e.group = group ∧ e.name = name

def helpIn (group : String) : List String → Stop
  | [] => .help
  | [name] => if name = "help" ∨ (find? group name).isSome then .help else .usage
  | _ => .usage

def helpOn : List String → Stop
  | [] => .help
  | group :: names =>
    if group ∈ groups then helpIn group names
    else if group = "help" ∧ names = [] then .help
    else .usage

/-- The settings from what was found beside the names, the innermost last. -/
def settingsOf (found : List Found) : Settings where
  chain := found.foldl (fun chain f => (f.option? "chain").or chain) none
  json := found.any (·.has "json")

def parse (args : List String) : Except Stop (Settings × Command) := do
  let (outer, args) ← (groupForm true).read args
  match args with
  | [] => .error .usage
  | "help" :: names => .error (helpOn names)
  | group :: args =>
    if group ∉ groups then .error .usage
    let (inner, args) ← (groupForm false).read args
    match args with
    | [] => .error .usage
    | "help" :: names => .error (helpIn group names)
    | name :: args =>
      match find? group name with
      | none => .error .usage
      | some entry =>
        let (found, _) ← entry.form.read args
        match entry.command? found with
        | none => .error .usage
        | some command => return (settingsOf [outer, inner, found], command)

def usageText : String :=
  String.intercalate "\n"
    (("Usage: " ++ programName ++ " [--chain <CHAIN>] [--json] <COMMAND>") :: "" ::
      entries.map fun e =>
        String.intercalate " "
          (["  " ++ programName, e.group, e.name] ++ if e.shown = "" then [] else [e.shown]))

end ProviderWallet.Command
