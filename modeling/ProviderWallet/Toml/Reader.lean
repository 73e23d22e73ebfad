import ProviderWallet.Toml.Number

namespace ProviderWallet.Toml

inductive Item where
  | value (v : Value)
  /-- A table. It is implicit if it has no header of its own so far, and dotted if a key with
  points gave rise to it. -/
  | table (implicit dotted : Bool) (entries : List (String × Item))
  | tables (each : List (List (String × Item)))

abbrev Entries := List (String × Item)

namespace Entries

def set (name : String) (item : Item) : Entries → Entries
  | [] => [(name, item)]
  | (other, old) :: rest =>
    if other = name then (name, item) :: rest else (other, old) :: set name item rest

def erase (name : String) (entries : Entries) : Entries :=
  entries.filter (·.1 ≠ name)

end Entries

/-- Changes the table at the end of a path. Tables on the way that are missing come into being. A
key with points must not lead through a table that has a header. The change is told whether the
table is dotted. -/
def change {α : Type} (byKey : Bool) (f : Bool → Entries → Option (α × Entries))
    (isDotted : Bool) : List String → Entries → Option (α × Entries)
  | [], entries => f isDotted entries
  | name :: path, entries =>
    match entries.lookup name with
    | none => do
      let (a, inner) ← change byKey f byKey path []
      return (a, Entries.set name (.table true byKey inner) entries)
    | some (.value _) => none
    | some (.table implicit dotted inner) =>
      if byKey && !implicit then none
      else do
        let (a, inner) ← change byKey f dotted path inner
        return (a, Entries.set name (.table implicit dotted inner) entries)
    | some (.tables each) =>
      match each.getLast? with
      | none => none
      | some last => do
        let (a, last) ← change byKey f false path last
        return (a, Entries.set name (.tables (each.dropLast ++ [last])) entries)

def addValue (path : List String) (name : String) (v : Value) (entries : Entries) :
    Option Entries := do
  let (_, entries) ← change true (fun isDotted entries =>
    if isDotted = path.isEmpty then none
    else
      match entries.lookup name with
      | some _ => none
      | none => some ((), entries ++ [(name, Item.value v)])) false path entries
  return entries

mutual

def Item.toValue : Item → Value
  | .value v => v
  | .table _ _ entries => .table (toValues entries)
  | .tables each => .array (toTables each)

def toValues : List (String × Item) → List (String × Value)
  | [] => []
  | (name, item) :: rest => (name, item.toValue) :: toValues rest

def toTables : List (List (String × Item)) → List Value
  | [] => []
  | entries :: rest => .table (toValues entries) :: toTables rest

end

def splitLast : List String → Option (List String × String)
  | [] => none
  | [name] => some ([], name)
  | first :: rest => (splitLast rest).map fun (path, name) => (first :: path, name)

mutual

/-- A value in front of a text, inside of `nesting` others. The depth bounds the nesting of
calls. -/
def readValue : (depth : Nat) → (nesting : Nat) → Chars → Option (Value × Chars)
  | 0, _, _ => none
  | depth + 1, nesting, cs =>
    match cs with
    | '[' :: cs =>
      if nesting = limit then none
      else do
        let (items, cs) ← readItems depth (nesting + 1) cs
        return (.array items, cs)
    | '\x7b' :: cs =>
      if nesting = limit then none
      else
        match skipBlanks cs with
        | '\x7d' :: cs => some (.table [], cs)
        | cs => do
          let (entries, cs) ← readInline depth (nesting + 1) [] cs
          return (.table (toValues entries), cs)
    | 't' :: 'r' :: 'u' :: 'e' :: cs => some (.boolean true, cs)
    | 'f' :: 'a' :: 'l' :: 's' :: 'e' :: cs => some (.boolean false, cs)
    | '"' :: _ | '\'' :: _ => do
      let (s, cs) ← readString cs
      return (.string s, cs)
    | _ => readScalar cs

def readItems : (depth : Nat) → (nesting : Nat) → Chars → Option (List Value × Chars)
  | 0, _, _ => none
  | depth + 1, nesting, cs => do
    match ← skipLines cs.length cs with
    | ']' :: cs => return ([], cs)
    | cs =>
      let (item, cs) ← readValue depth nesting cs
      match ← skipLines cs.length cs with
      | ',' :: cs =>
        let (items, cs) ← readItems depth nesting cs
        return (item :: items, cs)
      | ']' :: cs => return ([item], cs)
      | _ => none

def readInline : (depth : Nat) → (nesting : Nat) → Entries → Chars → Option (Entries × Chars)
  | 0, _, _, _ => none
  | depth + 1, nesting, entries, cs => do
    let (key, cs) ← readKey cs
    let '=' :: cs := cs | none
    let (v, cs) ← readValue depth nesting (skipBlanks cs)
    let (path, name) ← splitLast key
    let entries ← addValue path name v entries
    match skipBlanks cs with
    | ',' :: cs => readInline depth nesting entries cs
    | '\x7d' :: cs => return (entries, cs)
    | _ => none

end

/-- What was read so far: the finished tables, and the one that the next lines belong to with its
path. At the start that is the document itself. -/
structure Progress where
  root : Entries
  current : Entries
  path : List String
  /-- Whether the current table is one of several with a common name. -/
  isOneOfMany : Bool

namespace Progress

def start : Progress := ⟨[], [], [], false⟩

def finish (p : Progress) : Option Entries :=
  match splitLast p.path with
  | none => some p.current
  | some (path, name) => do
    let (_, root) ← change false (fun _ entries =>
      match entries.lookup name with
      | none =>
        let item : Item :=
          if p.isOneOfMany then .tables [p.current] else .table false false p.current
        some ((), Entries.set name item entries)
      | some (.tables each) =>
        if p.isOneOfMany then some ((), Entries.set name (.tables (each ++ [p.current])) entries)
        else none
      | some (.table implicit _ _) =>
        if implicit && !p.isOneOfMany then
          some ((), Entries.set name (.table false false p.current) entries)
        else none
      | some (.value _) => none) false path p.root
    return root

/-- Starts a table. It may go on with what came into being on the way to tables inside of it. -/
def startTable (p : Progress) (key : List String) : Option Progress := do
  let root ← p.finish
  let (path, name) ← splitLast key
  let (current, root) ← change false (fun _ entries =>
    match entries.lookup name with
    | none => some ([], entries)
    | some (.table true false inner) => some (inner, Entries.erase name entries)
    | some _ => none) false path root
  return ⟨root, current, key, false⟩

def startOneOfMany (p : Progress) (key : List String) : Option Progress := do
  let root ← p.finish
  let (path, name) ← splitLast key
  let (_, root) ← change false (fun _ entries =>
    match entries.lookup name with
    | none => some ((), Entries.set name (.tables []) entries)
    | some (.tables _) => some ((), entries)
    | some _ => none) false path root
  return ⟨root, [], key, true⟩

def add (p : Progress) (key : List String) (v : Value) : Option Progress := do
  let (path, name) ← splitLast key
  return { p with current := ← addValue path name v p.current }

end Progress

def readHeader (p : Progress) : Chars → Option (Progress × Chars)
  | '[' :: cs => do
    let (key, cs) ← readKey cs
    let ']' :: ']' :: cs := cs | none
    return (← p.startOneOfMany key, ← lineEnd? cs)
  | cs => do
    let (key, cs) ← readKey cs
    let ']' :: cs := cs | none
    return (← p.startTable key, ← lineEnd? cs)

def readEntry (p : Progress) (cs : Chars) : Option (Progress × Chars) := do
  let (key, cs) ← readKey cs
  let '=' :: cs := cs | none
  let (v, cs) ← readValue (2 * cs.length + 2) 0 (skipBlanks cs)
  let cs ← lineEnd? cs
  return (← p.add key v, cs)

def readLines : (depth : Nat) → Progress → Chars → Option Progress
  | 0, p, cs => if skipBlanks cs = [] then some p else none
  | depth + 1, p, cs =>
    match skipBlanks cs with
    | [] => some p
    | '[' :: cs => do
      let (p, cs) ← readHeader p cs
      readLines depth p cs
    | '#' :: cs => do readLines depth p (← lineEnd? ('#' :: cs))
    | c :: cs =>
      if c = '\n' ∨ c = '\r' then do readLines depth p (← newline? (c :: cs))
      else do
        let (p, cs) ← readEntry p (c :: cs)
        readLines depth p cs

def withoutMark : Chars → Chars
  | c :: cs => if c = '\uFEFF' then cs else c :: cs
  | [] => []

def read? (s : String) : Option (List (String × Value)) := do
  let cs := withoutMark s.toList
  let p ← readLines (cs.length + 1) .start cs
  return toValues (← p.finish)

end ProviderWallet.Toml
