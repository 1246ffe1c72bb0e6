import LuaStubs.Entries
import LuaStubs.Files.Store

/-!
# Directory trees in memory

A tree is a file with its bytes, or a directory with its entries. Paths have
slashes between their components; `Tree.resolve` follows a path from the root,
through directories only, to a list of names without `.` and `..`. A tree is a
store of its files.
-/

namespace LuaStubs.Files

/-- A file or a directory. -/
inductive Tree where
  | file (content : ByteArray)
  | directory (entries : List (String × Tree))
  deriving Inhabited

/-- The components of a path. -/
def components (path : List Char) : List (List Char) :=
  path.foldr (fun c parts =>
    if c = '/' then [] :: parts
    else match parts with
      | part :: rest => (c :: part) :: rest
      | [] => [[c]]) [[]]

namespace Tree

/-- A directory with nothing in it. -/
def empty : Tree := .directory []

/-- What a list of names leads to. -/
def get? : Tree → List String → Option Tree
  | t, [] => some t
  | .file _, _ :: _ => none
  | .directory entries, name :: names =>
    match Entries.get? name entries with
    | some t => get? t names
    | none => none

/-- The tree with `new` where a list of names leads to, if there is a directory around that. -/
def put : Tree → (names : List String) → (new : Tree) → Tree
  | _, [], new => new
  | .file content, _ :: _, _ => .file content
  | .directory entries, [name], new => .directory (Entries.put name new entries)
  | .directory entries, name :: names, new =>
    match Entries.get? name entries with
    | some t => .directory (Entries.put name (put t names new) entries)
    | none => .directory entries

/-! ## Paths -/

/-- Follows the components of a path from a directory on. Where the path leads may be new. -/
def resolveFrom (t : Tree) (names : List String) : List String → Except Problem (List String)
  | [] => .ok names
  | component :: rest =>
    match t.get? names with
    | none => .error .notFound
    | some (.file _) => .error .notADirectory
    | some (.directory _) =>
      if component = "" ∨ component = "." then resolveFrom t names rest
      else if component = ".." then resolveFrom t names.dropLast rest
      else resolveFrom t (names ++ [component]) rest

/-- The components of a path, as texts. -/
def parts (path : String) : List String := (components path.toList).map String.ofList

/-- Follows a path from the root. -/
def resolve (t : Tree) (path : String) : Except Problem (List String) :=
  if path.isEmpty then .error .notFound else t.resolveFrom [] (parts path)

/-- The bytes of a file. -/
def read (t : Tree) (path : String) : Except Problem ByteArray := do
  match t.get? (← t.resolve path) with
  | none => .error .notFound
  | some (.directory _) => .error .isADirectory
  | some (.file content) => .ok content

/-- The text of a file. -/
def readText (t : Tree) (path : String) : Except Problem String := do
  match String.fromUTF8? (← t.read path) with
  | some text => .ok text
  | none => .error .notUtf8

/-- Whether a path leads to a file. -/
def isFile (t : Tree) (path : String) : Bool := (t.read path).isOk

/-! ## Changes -/

/-- Makes the directories on a path that are missing, from the directory of `names` on. The second
part says whether the whole path is directories then. -/
def makeDirectoriesFrom (names : List String) : (components : List String) → Tree → Tree × Bool
  | [], t => (t, true)
  | component :: rest, t =>
    if component = "" ∨ component = "." then makeDirectoriesFrom names rest t
    else if component = ".." then makeDirectoriesFrom names.dropLast rest t
    else
      match t.get? (names ++ [component]) with
      | some (.directory _) => makeDirectoriesFrom (names ++ [component]) rest t
      | some (.file _) => (t, false)
      | none =>
        makeDirectoriesFrom (names ++ [component]) rest (t.put (names ++ [component]) empty)

/-- Makes the directories on a path that are missing. -/
def makeDirectories (t : Tree) (path : String) : Tree × Bool :=
  makeDirectoriesFrom [] (parts path) t

/-- The components that lead to the directory around a path. -/
def around (path : String) : List String :=
  (((parts path).reverse.dropWhile fun c => c = "" ∨ c = ".").drop 1).reverse

/-- Writes a file, and makes the directories around it that are missing. The second part says
whether the file is written. -/
def write (t : Tree) (path : String) (content : ByteArray) : Tree × Bool :=
  match makeDirectoriesFrom [] (around path) t with
  | (t, false) => (t, false)
  | (t, true) =>
    match t.resolve path with
    | .error _ => (t, false)
    | .ok names =>
      match t.get? names with
      | some (.directory _) => (t, false)
      | _ => (t.put names (.file content), true)

/-- A tree is a store of its files. It keeps nothing of what is printed. -/
instance : Store Tree where
  readText := readText
  isFile := isFile
  writeText t path text := t.write path text.toUTF8
  print t _ := (t, true)

end Tree

end LuaStubs.Files
