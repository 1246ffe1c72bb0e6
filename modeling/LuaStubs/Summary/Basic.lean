import LuaStubs.Report

/-!
# Run summaries

After a run its summary tells where the module went and what the report says of
it.
-/

namespace LuaStubs

/-- What a run tells about itself. -/
structure Summary where
  surface : Surface
  /-- The output file, or the name of the standard output. -/
  output : String
  /-- How many entities were generated. -/
  generated : Nat
  skipped : List Skip
  collisions : List String
  /-- The length of the module in bytes. -/
  bytes : Nat
  deriving DecidableEq, Repr, Inhabited

namespace Summary

/-- The summary of a run that wrote to a file, or else to the standard output. -/
def ofReport (r : Report) (output : Option String) : Summary where
  surface := r.surface
  output := output.getD "stdout"
  generated := r.generated.length
  skipped := r.skipped
  collisions := r.collisions
  bytes := r.bytes

/-- The summary as a JSON value. -/
def toJson (s : Summary) : Json.Value :=
  .object
    [("surface", .string s.surface.name),
     ("output", .string s.output),
     ("generated", .ofNat s.generated),
     ("skipped", .array (s.skipped.map Skip.toJson)),
     ("collisions", .ofStrings s.collisions),
     ("bytes", .ofNat s.bytes)]

end Summary

end LuaStubs
