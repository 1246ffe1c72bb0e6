import LuaStubs.Text.Search

/-!
# Comments in protocol text

`dropComments` removes every block comment that is closed, and then from what is
left every line comment.
-/

namespace LuaStubs.Proto

/-- The text without its closed block comments. -/
def dropBlocks (s : List Char) : List Char :=
  match s with
  | [] => []
  | '/' :: '*' :: body =>
    match _h : Text.splitAt? ['*', '/'] body with
    | some (_, rest) => dropBlocks rest
    | none => '/' :: dropBlocks ('*' :: body)
  | c :: cs => c :: dropBlocks cs
termination_by s.length
decreasing_by
  · have : rest.length ≤ body.length := Text.length_of_splitAt? _h
    simp only [List.length_cons]
    omega
  · simp
  · simp

/-- The text without its line comments; `inside` says that one has been opened on this line. -/
def dropLines : (inside : Bool) → List Char → List Char
  | _, [] => []
  | _, '\n' :: cs => '\n' :: dropLines false cs
  | true, _ :: cs => dropLines true cs
  | false, '/' :: '/' :: cs => dropLines true cs
  | false, c :: cs => c :: dropLines false cs

/-- The text without comments. -/
def dropComments (s : List Char) : List Char := dropLines false (dropBlocks s)

end LuaStubs.Proto
