import ProviderWallet.Command.Program

open ProviderWallet
open Storage (Entry Files Path Place)

namespace ProviderWallet.Main

def onDisk (place : Place) : IO.FS.DirEntry :=
  ⟨"/", String.intercalate "/" place⟩

/-- What stands on the disk at a place. The access mode of what is there already does not
matter. -/
def entryAt (place : Place) : IO (Option Entry) := do
  let path := (onDisk place).path
  try
    match (← path.metadata).type with
    | .dir => return some (.folder 0o755)
    | _ => return some (.file 0o644 (← IO.FS.readBinFile path).toList)
  catch _ => return none

def loadPath (files : Files) (path : String) : IO Files := do
  let way := Path.ofText path
  let mut place := if way.absolute then [] else files.working
  let mut loaded := files
  for step in way.steps do
    place := match step with
      | .stay => place
      | .up => place.dropLast
      | .down name => place ++ [name]
    if let some entry ← entryAt place then
      loaded := loaded.insert place entry
  return loaded

def loadInside (files : Files) (path : String) : IO Files := do
  match files.find path with
  | .ok (place, .folder _) =>
    let mut loaded := files
    for found in ← (onDisk place).path.readDir do
      let inside := place ++ [found.fileName]
      if let some entry ← entryAt inside then
        loaded := loaded.insert inside entry
    return loaded
  | _ => return files

def load (env : Environment) (args : List String) : IO Files := do
  let working := (← IO.currentDir).toString
  let names := (working.splitOn "/").filter (· ≠ "")
  let mut files ← loadPath ⟨[], names⟩ working
  if let .ok folder := Config.folderOf env then
    files ← loadPath files (Path.join folder "config.toml")
    files ← loadPath files (Path.join folder "account")
    if let .ok (folder, config) := (Config.load env files).1 then
      let keys := config.keystorePath folder
      files ← loadInside (← loadPath files keys) keys
  if let .ok (_, .importKey (some path)) := Command.parse args then
    files ← loadPath files path
  return files

def rightsOf (mode : Nat) : IO.AccessRight :=
  ⟨mode / 4 % 2 = 1, mode / 2 % 2 = 1, mode % 2 = 1⟩

/-- Creates what is new on the disk. A file is closed to others before it has any content, and
never takes the place of another. -/
def create (place : Place) (entry : Entry) : IO Unit := do
  let path := (onDisk place).path
  let mode := entry.mode
  let rights : IO.FileRight := ⟨rightsOf (mode / 64), rightsOf (mode / 8), rightsOf mode⟩
  match entry with
  | .folder _ =>
    IO.FS.createDir path
    IO.setAccessRights path rights
  | .file _ content =>
    let handle ← IO.FS.Handle.mk path .writeNew
    IO.setAccessRights path rights
    handle.write ⟨content.toArray⟩
    handle.flush

def save (before after : Files) : IO Unit := do
  for (place, _) in before.entries do
    if (after.entryAt? place).isNone then
      IO.FS.removeFile (onDisk place).path
  for (place, entry) in after.entries.mergeSort fun a b => a.1.length ≤ b.1.length do
    if (before.entryAt? place).isNone then
      create place entry

partial def readAll (stream : IO.FS.Stream) (sofar : ByteArray) : IO ByteArray := do
  let piece ← stream.read 65536
  if piece.isEmpty then return sofar
  readAll stream (sofar ++ piece)

def readInput (args : List String) : IO Bytes := do
  match Command.parse args with
  | .ok (_, .importKey none) =>
    let input ← IO.getStdin
    if ← input.isTty then
      IO.eprint "Enter private key: "
      return (← input.getLine).toUTF8.toList
    return (← readAll input .empty).toList
  | _ => return []

def draw (size : USize) : IO Nat := do
  return Bytes.toNat (← IO.getRandomBytes size).toList

partial def drawSecret : IO SecretKey := do
  match SecretKey.ofNat? (← draw 32) with
  | some secret => return secret
  | none => drawSecret

def drawFresh : IO Fresh := do
  return ⟨BitVec.ofNat 128 (← draw 16), BitVec.ofNat 96 (← draw 12), BitVec.ofNat 64 (← draw 8)⟩

def environment : IO Environment := do
  return ⟨← IO.getEnv "CP_PATH", ← IO.getEnv "HOME", ← IO.getEnv "CP_RPC_URL",
    ← IO.getEnv "CP_HUB_URL", ← IO.getEnv "CP_HUB_TOKEN",
    ← IO.getEnv "CP_KEYSTORE_PASSPHRASE"⟩

end ProviderWallet.Main

open ProviderWallet.Main in
/-- The program with the files of the system. It sends nothing: every request over the network fails
as if nobody could be reached. -/
def main (args : List String) : IO UInt32 := do
  let env ← environment
  let files ← load env args
  let inputs : Command.Inputs := ⟨← readInput args, ← drawFresh, ← drawSecret⟩
  let (outcome, after, _) :=
    Program.run env inputs Network.unreachable args files ⟨(), ← IO.monoMsNow, []⟩
  save files after
  IO.print outcome.output
  IO.eprint outcome.errors
  return outcome.exit.code.toUInt32
