import LuaStubs.Files.Access

/-!
# Files on disk
-/

namespace LuaStubs.Files

/-- Why a file could not be opened or read. -/
def problemOf : IO.Error → Problem
  | .noFileOrDirectory .. => .notFound
  | .inappropriateType _ 20 _ => .notADirectory
  | .inappropriateType .. => .isADirectory
  | e => .other (toString e)

/-- The text of a file. -/
def readFile (path : String) : IO (Except Problem String) := do
  try
    match String.fromUTF8? (← IO.FS.readBinFile path) with
    | some text => return .ok text
    | none => return .error .notUtf8
  catch e => return .error (problemOf e)

/-- Whether a path leads to a file. -/
def isRegularFile (path : String) : IO Bool := do
  try
    let metadata ← (← IO.FS.realPath path).metadata
    return metadata.type matches .file
  catch _ => return false

/-- The directory around a path, if the path names one. -/
def parent? (path : String) : Option String :=
  match path.toList.reverse.dropWhile (· != '/') with
  | _ :: c :: cs => some (String.ofList (c :: cs).reverse)
  | _ => none

/-- Writes a file, and makes the directories around it that are missing. -/
def writeFile (path text : String) : IO Bool := do
  try
    match parent? path with
    | some parent => IO.FS.createDirAll parent
    | none => pure ()
    IO.FS.writeFile path text
    return true
  catch _ => return false

/-- Prints a text to the standard output. -/
def printText (text : String) : IO Bool := do
  try
    let stdout ← IO.getStdout
    stdout.putStr text
    stdout.flush
    return true
  catch _ => return false

/-- The system gives access to files. -/
instance : Access IO where
  readText := readFile
  isFile := isRegularFile
  writeText := writeFile
  print := printText

end LuaStubs.Files
