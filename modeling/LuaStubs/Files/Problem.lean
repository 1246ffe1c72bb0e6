/-!
# Why a file could not be read

The causes, and the text that a message gives for each.
-/

namespace LuaStubs.Files

/-- The reason why a file's text is not available. -/
inductive Problem where
  | notFound
  | notADirectory
  | isADirectory
  | notUtf8
  /-- Any other cause, in the system's words. -/
  | other (text : String)
  deriving DecidableEq, Repr, Inhabited

/-- The wording of a cause. -/
def Problem.message : Problem → String
  | notFound => "No such file or directory (os error 2)"
  | notADirectory => "Not a directory (os error 20)"
  | isADirectory => "Is a directory (os error 21)"
  | notUtf8 => "stream did not contain valid UTF-8"
  | other text => text

end LuaStubs.Files
