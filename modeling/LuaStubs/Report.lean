import LuaStubs.Entity
import LuaStubs.Json.Value

/-!
# Generation reports

A report lists what a run generated, what it left out and why, and the names
that it generated more than once. `Report.detectCollisions` fills in the last
list from the first.
-/

namespace LuaStubs

/-- An entity that is part of the output. -/
structure Generated where
  kind : EntityKind
  /-- The name of the generated function. -/
  name : String
  deriving DecidableEq, Repr, Inhabited

/-- An entity that is left out of the output. -/
structure Skip where
  kind : EntityKind
  name : String
  reason : String
  deriving DecidableEq, Repr, Inhabited

/-- What one run did. -/
structure Report where
  surface : Surface
  generated : List Generated := []
  skipped : List Skip := []
  /-- The names that occur more than once in `generated`. -/
  collisions : List String := []
  /-- The length of the output in bytes. -/
  bytes : Nat := 0
  deriving DecidableEq, Repr, Inhabited

/-- The texts that occur in a list more than once, in the order of their first occurrences. -/
def repeatedNames : List String → List String
  | [] => []
  | x :: xs =>
    if x ∈ xs then x :: (repeatedNames xs).filter (· ≠ x) else repeatedNames xs

namespace Report

/-- The report with one more generated entity. -/
def addGenerated (r : Report) (kind : EntityKind) (name : String) : Report :=
  { r with generated := r.generated ++ [⟨kind, name⟩] }

/-- The report with one more skip. -/
def addSkip (r : Report) (skip : Skip) : Report := { r with skipped := r.skipped ++ [skip] }

/-- How many entities of a kind were generated. -/
def count (r : Report) (kind : EntityKind) : Nat :=
  (r.generated.filter fun g => g.kind = kind).length

/-- The report with its collisions. In Lua the last definition of a name wins, so they are told but
change nothing in the output. -/
def detectCollisions (r : Report) : Report :=
  { r with collisions := repeatedNames (r.generated.map Generated.name) }

end Report

open Json (Value)

/-- A generated entity as a JSON value. -/
def Generated.toJson (g : Generated) : Value :=
  .object [("kind", .string g.kind.name), ("name", .string g.name)]

/-- A skip as a JSON value. -/
def Skip.toJson (s : Skip) : Value :=
  .object [("kind", .string s.kind.name), ("name", .string s.name), ("reason", .string s.reason)]

/-- The report as a JSON value. -/
def Report.toJson (r : Report) : Value :=
  .object
    [("surface", .string r.surface.name),
     ("generated", .array (r.generated.map Generated.toJson)),
     ("skipped", .array (r.skipped.map Skip.toJson)),
     ("collisions", .ofStrings r.collisions),
     ("bytes", .ofNat r.bytes)]

end LuaStubs
