import LuaStubs.Error

/-!
# Outputs in memory

The modules that runs have written, in the order of writing. The last one
written for a surface counts.
-/

namespace LuaStubs

/-- The modules that have been written, the last one at the end. -/
structure Outputs where
  written : List (Surface × String) := []
  deriving DecidableEq, Repr, Inhabited

namespace Outputs

/-- The outputs with one more. -/
def add (o : Outputs) (surface : Surface) (content : String) : Outputs :=
  ⟨o.written ++ [(surface, content)]⟩

/-- The last output for a surface. -/
def content? (o : Outputs) (surface : Surface) : Option String :=
  o.written.reverse.lookup surface

/-- How many outputs there are. -/
def size (o : Outputs) : Nat := o.written.length

/-- Whether nothing has been written. -/
def isEmpty (o : Outputs) : Bool := o.written.isEmpty

/-- Writes an output. This cannot fail. -/
def write {m : Type → Type} [Monad m] (surface : Surface) (content : String) :
    ExceptT Error (StateT Outputs m) Unit :=
  modify (·.add surface content)

end Outputs

end LuaStubs
