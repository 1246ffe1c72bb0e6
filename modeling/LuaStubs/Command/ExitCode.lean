/-!
# Exit codes

The number with which the program ends.
-/

namespace LuaStubs

/-- A number with which a program can end. -/
structure ExitCode where
  value : Int32
  deriving DecidableEq, Repr

namespace ExitCode

/-- The module is generated, whatever had to be left out. -/
def success : ExitCode := ⟨0⟩

/-- The run ended with an error that is not in the input. -/
def failure : ExitCode := ⟨1⟩

/-- The manifest, an input document or the command line cannot be used. -/
def invalidInput : ExitCode := ⟨2⟩

instance : Inhabited ExitCode := ⟨success⟩

/-- Whether the code stands for success. -/
def isSuccess (c : ExitCode) : Bool := c.value == 0

instance : ToString ExitCode := ⟨fun c => toString c.value.toInt⟩

end ExitCode

end LuaStubs
