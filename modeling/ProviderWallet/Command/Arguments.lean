namespace ProviderWallet.Command

/-- Why arguments do not lead to a command that is carried out. -/
inductive Stop where
  | usage
  | help
  | version
  deriving DecidableEq, Repr

inductive Shape where
  | plain
  /-- The argument after which there are no options. -/
  | mark
  | long (name : String) (value : Option String)
  | short (letter : Char)
  deriving DecidableEq, Repr

def shapeOf (arg : String) : Shape :=
  match arg.toList with
  | ['-', '-'] => .mark
  | '-' :: '-' :: cs =>
    .long (String.ofList (cs.takeWhile (· ≠ '=')))
      (match cs.dropWhile (· ≠ '=') with
        | [] => none
        | _ :: value => some (String.ofList value))
  | '-' :: c :: _ => .short c
  | _ => .plain

abbrev Check := String → Bool

structure Form where
  flags : List String
  options : List (String × Check)
  /-- What stands at the places; nothing if the name of another command does. -/
  places : Option (List Check)
  /-- Whether all further arguments count for the last place. -/
  isOpen : Bool
  hasVersion : Bool

structure Found where
  flags : List String
  options : List (String × String)
  places : List String
  deriving DecidableEq, Repr

namespace Found

def nothing : Found :=
  ⟨[], [], []⟩

/-- One more option without a value, which may be there once. -/
def addFlag (found : Found) (name : String) : Except Stop Found :=
  if name ∈ found.flags then .error .usage else .ok { found with flags := name :: found.flags }

def addOption (found : Found) (name : String) (check : Check) (value : String) :
    Except Stop Found :=
  if (found.options.lookup name).isSome then .error .usage
  else if check value then .ok { found with options := (name, value) :: found.options }
  else .error .usage

def nextCheck (form : Form) (found : Found) : Option Check :=
  let checks := form.places.getD []
  match checks[found.places.length]? with
  | some check => some check
  | none => if form.isOpen then checks.getLast? else none

def addPlace (form : Form) (found : Found) (value : String) : Except Stop Found :=
  match nextCheck form found with
  | none => .error .usage
  | some check =>
    if check value then .ok { found with places := found.places ++ [value] } else .error .usage

def option? (found : Found) (name : String) : Option String :=
  found.options.lookup name

def place? (found : Found) (index : Nat) : Option String :=
  found.places[index]?

def has (found : Found) (name : String) : Bool :=
  found.flags.contains name

end Found

def readFlag (form : Form) (found : Found) (name : String) : Except Stop Found :=
  if name ∈ form.flags then found.addFlag name
  else if name = "help" then .error .help
  else if name = "version" ∧ form.hasVersion then .error .version
  else .error .usage

/-- Reads arguments to their end, or up to the name of another command. What is left is given
back. -/
def readFrom (form : Form) (found : Found) : List String → Except Stop (Found × List String)
  | [] => .ok (found, [])
  | arg :: args =>
    match shapeOf arg with
    | .plain =>
      match form.places with
      | none => .ok (found, arg :: args)
      | some _ => do readFrom form (← found.addPlace form arg) args
    | .mark => do return (← args.foldlM (Found.addPlace form) found, [])
    | .short letter =>
      if letter = 'h' then .error .help
      else if letter = 'V' ∧ form.hasVersion then .error .version
      else .error .usage
    | .long name value =>
      match form.options.lookup name, value, args with
      | some check, some value, args => do
        readFrom form (← found.addOption name check value) args
      | some check, none, value :: args =>
        match shapeOf value with
        | .plain => do readFrom form (← found.addOption name check value) args
        | _ => .error .usage
      | some _, none, [] => .error .usage
      | none, some _, _ => .error .usage
      | none, none, args => do readFrom form (← readFlag form found name) args

def Form.read (form : Form) (args : List String) : Except Stop (Found × List String) :=
  readFrom form .nothing args

end ProviderWallet.Command
