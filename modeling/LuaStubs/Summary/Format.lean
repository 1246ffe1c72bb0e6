import LuaStubs.Error
import LuaStubs.Json.Pretty
import LuaStubs.Json.Writer
import LuaStubs.Text.Case

/-!
# Formats of a summary

A summary is written as indented JSON, as JSON on one line, or for people to
read.
-/

namespace LuaStubs

/-- How a summary is written. -/
inductive Format where
  /-- JSON with one entry a line. -/
  | json
  /-- JSON on one line. -/
  | text
  /-- Like JSON with one entry a line, with colours and without escapes. -/
  | pretty
  deriving DecidableEq, Repr, Inhabited

namespace Format

/-- The name of a format. -/
def name : Format → String
  | json => "json"
  | text => "text"
  | pretty => "pretty"

/-- The format that is used unless another one is asked for. -/
def default : Format := pretty

/-- The format of a name, in whatever case. -/
def ofName (s : String) : Except Error Format :=
  match String.ofList (Text.toLower s.toList) with
  | "json" => .ok json
  | "text" => .ok text
  | "pretty" => .ok pretty
  | _ => .error (.invalidArgument
      ("invalid output format: '" ++ s ++ "' (expected: json, text, or pretty)"))

/-- A value in a format. Only the pretty format can have colours. -/
def write (format : Format) (color : Bool) (v : Json.Value) : String :=
  match format with
  | json => v.indented
  | text => v.compact
  | pretty => v.pretty color

end Format

end LuaStubs
