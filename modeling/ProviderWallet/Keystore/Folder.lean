import ProviderWallet.Keystore.Memory
import ProviderWallet.Keystore.Seal
import ProviderWallet.Storage.Files

namespace ProviderWallet.Keystore

open Storage (Files)

/-- Where records are kept, and the passphrase for new ones and for those that are sealed. -/
structure Folder where
  path : String
  passphrase : Option String
  deriving DecidableEq, Repr

/-- A step of writing a record that fails although the rules of the file system allow it, and what
the system says. -/
inductive Breakdown where
  | create (reason : String)
  /-- Only so many bytes get into the file. -/
  | write (written : Nat) (reason : String)
  | link (reason : String)
  deriving DecidableEq, Repr

namespace Folder

def prepare (path : String) (files : Files) : Except Failure Files :=
  (files.createPrivate path).mapError fun fault => .keystore "open" fault.message

def withEnvironment (folder : Folder) (passphrase : Option String) : Folder :=
  match passphrase with
  | some p => if p = "" then folder else { folder with passphrase := some p }
  | none => folder

def isNameChar (c : Char) : Bool :=
  c.isAlphanum || c = '-' || c = '_'

def isName (name : String) : Bool :=
  name ≠ "" && name.toList.all isNameChar

def pathOf (folder : Folder) (name : String) : Except Failure String :=
  if isName name then .ok (Storage.Path.join folder.path name)
  else .error (.keystore "lookup" ("invalid record name " ++ Text.Quoted.quote name))

def stagingName (name : String) (fresh : Fresh) : String :=
  "." ++ name ++ "." ++ Text.Hex.encode (Bytes.ofNat 8 fresh.staging.toNat) ++ ".tmp"

def get (folder : Folder) (files : Files) (name : String) :
    Except Failure (Option KeyText) := do
  let path ← folder.pathOf name
  match files.readText path with
  | .error .notFound => .ok none
  | .error fault => .error (.keystore "get" fault.message)
  | .ok text =>
    match Record.read text with
    | .error reason => .error (.keystore "get" reason)
    | .ok record =>
      match record.unlock name folder.passphrase with
      | .error reason => .error (.keystore "get" reason)
      | .ok key => .ok (some key)

def stage (breakdown : Option Breakdown) (staging : String) (text : String) (files : Files) :
    Except Failure Unit × Files :=
  let content := match breakdown with
    | some (.write written _) => (Bytes.ofText text).take written
    | _ => Bytes.ofText text
  match files.create staging 0o600 content with
  | .error fault => (.error (.keystore "put" fault.message), files)
  | .ok staged =>
    match breakdown with
    | some (.create reason) => (.error (.keystore "put" reason), files)
    | some (.write _ reason) => (.error (.keystore "put" reason), staged)
    | _ => (.ok (), staged)

/-- Gives the file at `staging` the name of a record, unless something has it. -/
def publish (breakdown : Option Breakdown) (name staging path : String) (files : Files) :
    Except Failure Unit × Files :=
  match files.link staging path with
  | .error .alreadyExists => (.error (.alreadyExists name), files)
  | .error fault => (.error (.keystore "put" fault.message), files)
  | .ok linked =>
    match breakdown with
    | some (.link reason) => (.error (.keystore "put" reason), files)
    | _ => (.ok (), linked)

def discard (path : String) (files : Files) : Files :=
  match files.remove path with
  | .ok removed => removed
  | .error _ => files

/-- Stores a record under a name that nothing has. It is written to a hidden file first, so that a
record under its own name is complete. Whatever happens the hidden file is removed. -/
def put (folder : Folder) (breakdown : Option Breakdown) (fresh : Fresh) (files : Files)
    (name : String) (key : KeyText) : Except Failure Unit × Files :=
  match folder.pathOf name with
  | .error f => (.error f, files)
  | .ok path =>
    let staging := Storage.Path.join folder.path (stagingName name fresh)
    let text := (Record.ofKey fresh folder.passphrase key).text
    match stage breakdown staging text files with
    | (.error f, files) => (.error f, discard staging files)
    | (.ok (), files) =>
      let (result, files) := publish breakdown name staging path files
      (result, discard staging files)

def delete (folder : Folder) (files : Files) (name : String) : Except Failure Unit × Files :=
  match folder.pathOf name with
  | .error f => (.error f, files)
  | .ok path =>
    match files.remove path with
    | .ok removed => (.ok (), removed)
    | .error .notFound =>
      (.error (.keystore "delete" ("record " ++ name ++ " not found")), files)
    | .error fault => (.error (.keystore "delete" fault.message), files)

def isHidden (name : String) : Bool :=
  name.toList.head? = some '.'

def list (folder : Folder) (files : Files) : Except Failure (List String) :=
  match files.list folder.path with
  | .error fault => .error (.keystore "list" fault.message)
  | .ok entries =>
    .ok (sortNames (entries.filterMap fun (name, entry) =>
      match entry with
      | .file .. => if isHidden name then none else some name
      | .folder _ => none))

def keystore (folder : Folder) : Keystore Files where
  get := folder.get
  put := folder.put none
  delete := folder.delete
  list := folder.list

end Folder

end ProviderWallet.Keystore
