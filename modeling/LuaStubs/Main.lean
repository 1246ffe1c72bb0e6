import LuaStubs.Command.Run
import LuaStubs.Files.Disk

/-!
# The program

Runs the program on the files on disk, with templates that are lists of nodes. The
summary has colours unless the environment asks for none.
-/

open LuaStubs

/-- The program `stubgen`. -/
def main (arguments : List String) : IO UInt32 := do
  let manifest ← IO.getEnv "STUBGEN_MANIFEST"
  let color := (← IO.getEnv "NO_COLOR").isNone
  let ending ← (Command.run color manifest arguments : IO Command.Ending)
  IO.eprint ending.stderr
  return ending.exitCode.value.toUInt32
