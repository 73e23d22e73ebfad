import ProviderWallet.Bytes
import ProviderWallet.Storage.Path

namespace ProviderWallet.Storage

inductive Fault where
  | notFound
  | alreadyExists
  | notDirectory
  | isDirectory
  | nameTooLong
  /-- A path holds the character that ends texts in the system. -/
  | zeroInPath
  /-- A file that should be a text is not one. -/
  | notText
  deriving DecidableEq, Repr

def Fault.message : Fault → String
  | notFound => "No such file or directory (os error 2)"
  | alreadyExists => "File exists (os error 17)"
  | notDirectory => "Not a directory (os error 20)"
  | isDirectory => "Is a directory (os error 21)"
  | nameTooLong => "File name too long (os error 36)"
  | zeroInPath => "file name contained an unexpected NUL byte"
  | notText => "stream did not contain valid UTF-8"

inductive Entry where
  | file (mode : Nat) (content : Bytes)
  | folder (mode : Nat)
  deriving DecidableEq, Repr

def Entry.mode : Entry → Nat
  | file mode _ | folder mode => mode

/-- A place: the names on the way from the root to it. -/
abbrev Place := List String

/-- The entries of a file system. The root is a folder that is always there. -/
structure Files where
  entries : List (Place × Entry)
  /-- Where relative paths start. -/
  working : Place
  deriving DecidableEq, Repr

namespace Files

def withFolder (place : Place) : Files :=
  ⟨((List.range place.length).map fun (i : Nat) => (place.take (i + 1), .folder 0o755)), []⟩

def maxName : Nat := 255

def maxPath : Nat := 4095

def entryAt? (files : Files) (place : Place) : Option Entry :=
  if place = [] then some (.folder 0o755) else files.entries.lookup place

def insert (files : Files) (place : Place) (entry : Entry) : Files :=
  { files with entries := (place, entry) :: files.entries.filter (·.1 ≠ place) }

def erase (files : Files) (place : Place) : Files :=
  { files with entries := files.entries.filter (·.1 ≠ place) }

def eraseAll (files : Files) (place : Place) : Files :=
  { files with entries := files.entries.filter fun e => !place.isPrefixOf e.1 }

def step (files : Files) (place : Place) (s : Step) : Except Fault Place :=
  match files.entryAt? place with
  | none => .error .notFound
  | some (.file ..) => .error .notDirectory
  | some (.folder _) =>
    match s with
    | .stay => .ok place
    | .up => .ok place.dropLast
    | .down name =>
      if maxName < name.utf8ByteSize then .error .nameTooLong else .ok (place ++ [name])

/-- The place at the end of a path; something may stand there or not. -/
def walk (files : Files) (path : Path) : Except Fault Place :=
  path.steps.foldlM files.step (if path.absolute then [] else files.working)

def locate (files : Files) (path : String) : Except Fault Place :=
  if path.toList.contains '\x00' then .error .zeroInPath
  else if path = "" then .error .notFound
  else if maxPath < path.utf8ByteSize then .error .nameTooLong
  else files.walk (Path.ofText path)

def find (files : Files) (path : String) : Except Fault (Place × Entry) := do
  let place ← files.locate path
  match files.entryAt? place with
  | none => .error .notFound
  | some entry => .ok (place, entry)

def exists? (files : Files) (path : String) : Bool :=
  (files.find path).toOption.isSome

def read (files : Files) (path : String) : Except Fault Bytes := do
  match ← files.find path with
  | (_, .file _ content) => .ok content
  | (_, .folder _) => .error .isDirectory

def readText (files : Files) (path : String) : Except Fault String := do
  match Bytes.toText? (← files.read path) with
  | some text => .ok text
  | none => .error .notText

def create (files : Files) (path : String) (mode : Nat) (content : Bytes) :
    Except Fault Files := do
  let place ← files.locate path
  match files.entryAt? place with
  | some _ => .error .alreadyExists
  | none => .ok (files.insert place (.file mode content))

def link (files : Files) (source target : String) : Except Fault Files := do
  let (_, entry) ← files.find source
  let place ← files.locate target
  match files.entryAt? place with
  | some _ => .error .alreadyExists
  | none => .ok (files.insert place entry)

def remove (files : Files) (path : String) : Except Fault Files := do
  match ← files.find path with
  | (place, .file ..) => .ok (files.erase place)
  | (_, .folder _) => .error .isDirectory

def makeStep (files : Files) (place : Place) (s : Step) : Except Fault (Files × Place) := do
  let next ← files.step place s
  match files.entryAt? next with
  | none => .ok (files.insert next (.folder 0o755), next)
  | some _ => .ok (files, next)

def createFolders (files : Files) (path : String) : Except Fault Files := do
  if path = "" then return files
  if path.toList.contains '\x00' then .error .zeroInPath
  else if maxPath < path.utf8ByteSize then .error .nameTooLong
  else
    let way := Path.ofText path
    let (files, place) ← way.steps.foldlM (fun (files, place) s => files.makeStep place s)
      (files, if way.absolute then [] else files.working)
    match files.entryAt? place with
    | some (.folder _) => .ok files
    | _ => .error .alreadyExists

def setMode (files : Files) (path : String) (mode : Nat) : Except Fault Files := do
  match ← files.find path with
  | (place, .file _ content) => .ok (files.insert place (.file mode content))
  | (place, .folder _) => if place = [] then .ok files else .ok (files.insert place (.folder mode))

/-- Creates a folder that only its owner may use, unless something is there already. -/
def createPrivate (files : Files) (path : String) : Except Fault Files := do
  if files.exists? path then .ok files
  else (← files.createFolders path).setMode path 0o700

def childOf? (folder place : Place) : Option String :=
  match place.getLast? with
  | some name => if place = folder ++ [name] then some name else none
  | none => none

def list (files : Files) (path : String) : Except Fault (List (String × Entry)) := do
  match ← files.find path with
  | (_, .file ..) => .error .notDirectory
  | (folder, .folder _) =>
    let inside := files.entries.filterMap fun (place, entry) =>
      (childOf? folder place).map (·, entry)
    .ok (inside.mergeSort fun a b => a.1 ≤ b.1)

end Files

end ProviderWallet.Storage
