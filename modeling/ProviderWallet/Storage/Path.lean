namespace ProviderWallet.Storage

inductive Step where
  | stay
  | up
  | down (name : String)
  deriving DecidableEq, Repr

structure Path where
  absolute : Bool
  steps : List Step
  deriving DecidableEq, Repr

namespace Path

def pieces : List Char → List (List Char)
  | [] => [[]]
  | c :: cs =>
    if c = '/' then [] :: pieces cs
    else
      match pieces cs with
      | [] => [[c]]
      | p :: ps => (c :: p) :: ps

/-- The step that a piece stands for. A slash at the end of a path asks for a folder. -/
def stepOf (piece : List Char) : Step :=
  if piece = [] ∨ piece = ['.'] then .stay
  else if piece = ['.', '.'] then .up
  else .down (String.ofList piece)

def isAbsolute (text : String) : Bool :=
  text.toList.head? = some '/'

def ofText (text : String) : Path :=
  ⟨isAbsolute text, (pieces text.toList).map stepOf⟩

/-- The text of a path inside a folder; an absolute one replaces the folder. -/
def join (folder name : String) : String :=
  if isAbsolute name then name
  else if folder.toList.getLast? = some '/' ∨ folder = "" then folder ++ name
  else folder ++ "/" ++ name

end Path

end ProviderWallet.Storage
