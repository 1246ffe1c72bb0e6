import LuaStubs.Error

/-!
# Access to files

A run reads and writes files by their paths, and prints, through
`Files.Access`. The system gives this, and a directory tree in memory gives
access to its files as well (`Files.Tree`).
-/

namespace LuaStubs.Files

/-- What a run needs of files and of the standard output. -/
class Access (m : Type → Type) where
  /-- The text of a file. -/
  readText : (path : String) → m (Except Problem String)
  /-- Whether a path leads to a file, and not to a directory or nowhere. -/
  isFile : (path : String) → m Bool
  /-- Writes a file, and makes the directories around it that are missing; false if that fails. -/
  writeText : (path text : String) → m Bool
  /-- Prints a text to the standard output; false if that fails. -/
  print : (text : String) → m Bool

/-- Files are accessible also where there is a state besides. -/
instance {σ : Type} {m : Type → Type} [Monad m] [Access m] : Access (StateT σ m) where
  readText path := StateT.lift (Access.readText path)
  isFile path := StateT.lift (Access.isFile path)
  writeText path text := StateT.lift (Access.writeText path text)
  print text := StateT.lift (Access.print text)

variable {m : Type → Type} [Monad m] [Access m]

/-- Reads an input document. -/
def readDocument (path : String) : ExceptT Error m String := do
  match ← (Access.readText path : m _) with
  | .ok text => return text
  | .error _ => throw (.inputUnreadable path)

/-- Writes the output of a run. -/
def writeOutput (path text : String) : ExceptT Error m Unit := do
  if ← (Access.writeText path text : m _) then return
  throw (.outputFailed path)

/-- Prints the output of a run. -/
def printOutput (text : String) : ExceptT Error m Unit := do
  if ← (Access.print text : m _) then return
  throw (.outputFailed "<stdout>")

/-- The path of a file in a directory. -/
def join (directory name : String) : String :=
  if directory.isEmpty then name
  else if directory.toList.getLast? = some '/' then directory ++ name
  else directory ++ "/" ++ name

end LuaStubs.Files
