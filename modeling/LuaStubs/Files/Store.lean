import LuaStubs.Files.Access

/-!
# Stores

A store is a state with files and a standard output. Reading leaves it as it is,
writing and printing may change it. A state monad over a store gives access to
its files.
-/

namespace LuaStubs.Files

/-- A state with files and a standard output. -/
class Store (σ : Type) where
  /-- The text of a file. -/
  readText : (store : σ) → (path : String) → Except Problem String
  /-- Whether a path leads to a file, and not to a directory or nowhere. -/
  isFile : (store : σ) → (path : String) → Bool
  /-- Writes a file, and makes the directories around it that are missing. The second part says
  whether the file is written. -/
  writeText : (store : σ) → (path text : String) → σ × Bool
  /-- Prints a text to the standard output. The second part says whether it is printed. -/
  print : (store : σ) → (text : String) → σ × Bool

/-- A store as a state gives access to its files. -/
instance {σ : Type} [Store σ] : Access (StateM σ) where
  readText path := do return Store.readText (← get) path
  isFile path := do return Store.isFile (← get) path
  writeText path text := do
    let (store, written) := Store.writeText (← get) path text
    set store
    return written
  print text := do
    let (store, printed) := Store.print (← get) text
    set store
    return printed

end LuaStubs.Files
