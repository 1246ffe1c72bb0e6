import LuaStubs.Template.Node
import LuaStubs.Text.Search

/-!
# Reading templates

A source is cut into texts and the tags between them. A tag that opens, divides
or closes a block, or a comment, takes its line with it when nothing but blanks
shares that line. Then `parse?` nests the blocks.

Tags are written between double braces:

* `path`, `&path` or `{path}` prints a value;
* `#if path`, `#unless path` and `#each path` open a block, `else` divides it
  and `/` with the name closes it;
* `! …` and `!-- … --` are comments.

This is the part of the template language in which the built-in templates are
written, and not all of it. A tag with another mark in it (a tilde, bars, a
parenthesis, an assignment, a step outwards) is no tag here, nor is a word behind
`else` or a tag behind a backslash; a source with one is not read.
-/

namespace LuaStubs.Template

/-! ## Tags -/

/-- A tag of a template. -/
inductive Tag where
  | print (path : Path)
  /-- A call of a helper with arguments. -/
  | call
  /-- The start of a block. -/
  | start (name : String) (arguments : List Path)
  /-- What stands between the two parts of a block. -/
  | divide
  /-- The end of a block. -/
  | finish (name : String)
  | comment
  deriving DecidableEq, Repr, Inhabited

/-- Whether a tag takes its line with it when it is alone on it. -/
def Tag.ownsLine : Tag → Bool
  | print _ => false
  | call => false
  | _ => true

/-- White space inside a tag. -/
def isTagSpace (c : Char) : Bool := c == ' ' || c == '\t' || c == '\n' || c == '\r'

/-- The text behind white space inside a tag. -/
def skipTagSpace (s : List Char) : List Char := s.dropWhile isTagSpace

/-- A character of a name. -/
def isSymbol (c : Char) : Bool :=
  c.isAlphanum || c == '_' || c == '-' || c == '$' || 128 ≤ c.toNat

/-- Reads one or more characters of a name. -/
def readSymbol? (s : List Char) : Option (List Char × List Char) :=
  match s.takeWhile isSymbol with
  | [] => none
  | name => some (name, s.dropWhile isSymbol)

/-- Reads a key: a name, or any text in brackets. -/
def readKey? : List Char → Option (List Char × List Char)
  | '[' :: s =>
    match s.dropWhile (· != ']') with
    | ']' :: rest => some (s.takeWhile (· != ']'), rest)
    | _ => none
  | s => readSymbol? s

/-- Reads keys with points or slashes between them, at most `fuel`. -/
def readKeys? : (fuel : Nat) → List Char → Option (List String × List Char)
  | 0, _ => none
  | fuel + 1, s => do
    let (key, rest) ← readKey? s
    match rest with
    | c :: more =>
      if c = '.' ∨ c = '/' then
        match readKeys? fuel more with
        | some (keys, rest) => some (String.ofList key :: keys, rest)
        | none => some ([String.ofList key], rest)
      else some ([String.ofList key], rest)
    | [] => some ([String.ofList key], [])

/-- Reads a path. The key `this` stands for the value it is looked up in. -/
def readPath? (s : List Char) : Option (Path × List Char) :=
  match s with
  | '@' :: s =>
    match readKeys? (s.length + 1) s with
    | some (name :: _, rest) => some (.variable name, rest)
    | _ => none
  | s => (readKeys? (s.length + 1) s).map fun (keys, rest) =>
    (.keys (keys.filter (· ≠ "this")), rest)

/-- Reads the arguments of a tag up to the end of its text, with white space before each. -/
def readArguments? : (fuel : Nat) → List Char → Option (List Path)
  | 0, _ => none
  | fuel + 1, s =>
    match skipTagSpace s with
    | [] => some []
    | c :: rest => do
      let (path, rest) ← readPath? (c :: rest)
      match rest with
      | [] => some [path]
      | d :: _ => if isTagSpace d then do some (path :: (← readArguments? fuel rest)) else none

/-- The text that is a path and nothing else but white space. -/
def onlyPath? (s : List Char) : Option Path := do
  let (path, rest) ← readPath? (skipTagSpace s)
  if skipTagSpace rest = [] then some path else none

/-- The word that divides a block, with white space behind it. -/
def isElse (s : List Char) : Bool :=
  match readSymbol? s with
  | some (name, rest) => name == "else".toList && (skipTagSpace rest).isEmpty
  | none => false

/-- Words behind the one that divides a block, which would open another block in its place. -/
def isElseChain (s : List Char) : Bool :=
  match readSymbol? s with
  | some (name, c :: rest) => name == "else".toList && isTagSpace c && !(skipTagSpace rest).isEmpty
  | _ => false

/-- The tag of the text between double braces, comments apart, if it is one of those that are read. -/
def tag? (s : List Char) : Option Tag :=
  match skipTagSpace s with
  | '#' :: s => do
    let (name, rest) ← readSymbol? (skipTagSpace s)
    return .start (String.ofList name) (← readArguments? (rest.length + 1) rest)
  | '/' :: s => do
    let (name, rest) ← readSymbol? (skipTagSpace s)
    if skipTagSpace rest = [] then some (.finish (String.ofList name)) else none
  | '&' :: s => (onlyPath? s).map .print
  | s =>
    if isElse s then some .divide
    else if isElseChain s then none
    else match onlyPath? s with
      | some path => some (.print path)
      | none => do
        let (_, rest) ← readSymbol? s
        match ← readArguments? (rest.length + 1) rest with
        | [] => none
        | _ :: _ => some .call

/-! ## Cutting a source into texts and tags -/

/-- What opens and closes a tag. -/
def tagOpen : List Char := ['\x7b', '\x7b']

@[inherit_doc tagOpen]
def tagClose : List Char := ['\x7d', '\x7d']

/-- Reads a tag from behind its opening braces on. A comment between double dashes may hold closing
braces. -/
def readTag? (s : List Char) : Option (Tag × List Char) :=
  match s with
  | '!' :: s =>
    let long := (Text.dropLead? ['-', '-'] (skipTagSpace s)).bind
      (Text.splitAt? ('-' :: '-' :: tagClose))
    match long with
    | some (_, rest) => some (.comment, rest)
    | none => (Text.splitAt? tagClose s).map fun (_, rest) => (.comment, rest)
  | '\x7b' :: s => do
    let (inside, rest) ← Text.splitAt? ('\x7d' :: tagClose) s
    let path ← onlyPath? inside
    some (.print path, rest)
  | s => do
    let (inside, rest) ← Text.splitAt? tagClose s
    let tag ← tag? inside
    some (tag, rest)

/-- A source: a text, and tags with the texts behind them. -/
structure Source where
  head : List Char
  rest : List (Tag × List Char)
  deriving Inhabited

/-- Cuts a source into its texts and tags, at most `fuel` tags. A tag behind a backslash is not read. -/
def cut? : (fuel : Nat) → List Char → Option Source
  | 0, _ => none
  | fuel + 1, s =>
    match Text.splitAt? tagOpen s with
    | none => some ⟨s, []⟩
    | some (text, s) =>
      if text.getLast? = some '\\' then none
      else do
        let (tag, s) ← readTag? s
        let source ← cut? fuel s
        some ⟨text, (tag, source.head) :: source.rest⟩

/-! ## Lines of tags -/

/-- A blank or a tab. -/
def isBlankOrTab (c : Char) : Bool := c == ' ' || c == '\t'

/-- A character that breaks a line. -/
def isLineBreak (c : Char) : Bool := c == '\n' || c == '\r'

/-- Whether what follows a text starts a line, up to blanks. `first` says that the text is the first
of its source. -/
def endsLine (first : Bool) (s : List Char) : Bool :=
  match s.reverse.dropWhile isBlankOrTab with
  | [] => first
  | c :: _ => isLineBreak c

/-- Whether what comes before a text ends a line, up to blanks. -/
def startsLine (s : List Char) : Bool :=
  match s.dropWhile isBlankOrTab with
  | [] => false
  | c :: _ => isLineBreak c

/-- The text without blanks at its end. -/
def dropIndent (s : List Char) : List Char := (s.reverse.dropWhile isBlankOrTab).reverse

/-- The text without blanks and one line break at its start. -/
def dropLineEnd (s : List Char) : List Char :=
  match s.dropWhile isBlankOrTab with
  | '\r' :: '\n' :: rest => rest
  | '\n' :: rest => rest
  | rest => rest

/-- A text or a tag of a template. -/
inductive Token where
  | text (s : List Char)
  | tag (t : Tag)
  deriving DecidableEq, Repr, Inhabited

/-- The tokens of a source. `before` is the text before the first tag as it stands in the source,
and `kept` what is left of it at its start; `first` says that it is the first text. -/
def tokens (first : Bool) (before kept : List Char) : List (Tag × List Char) → List Token
  | [] => [.text kept]
  | (tag, after) :: rest =>
    if tag.ownsLine && endsLine first before && startsLine after then
      .text (dropIndent kept) :: .tag tag :: tokens false after (dropLineEnd after) rest
    else .text kept :: .tag tag :: tokens false after after rest

/-- The tokens of a source, with the lines of tags removed. -/
def Source.tokens (s : Source) : List Token := Template.tokens true s.head s.head s.rest

/-! ## Nesting -/

/-- An open block: its name and arguments, and the nodes of its parts, the last one first. -/
structure Frame where
  name : String
  arguments : List Path
  /-- The nodes around the block up to its opening tag, the last one first. -/
  outer : List Node
  /-- The part before the dividing tag, once that has come. -/
  divided : Option (List Node) := none

/-- The node of a closed block: `body` is its last part, in order. A block of any helper but the three
that have nodes is `unknown`. -/
def Frame.node (f : Frame) (body : List Node) : Node :=
  let (first, second) := match f.divided with
    | some first => (first, some body)
    | none => (body, none)
  match f.name, f.arguments with
  | "if", path :: _ => .choice true path first (second.getD [])
  | "unless", path :: _ => .choice false path first (second.getD [])
  | "each", path :: _ => .loop path first second
  | _, _ => .unknown

/-- Nests tokens into nodes. `nodes` are those of the innermost open block so far, the last one
first, and `frames` the open blocks, the innermost first. -/
def nest? (nodes : List Node) (frames : List Frame) : List Token → Option (List Node)
  | [] => if frames.isEmpty then some nodes.reverse else none
  | .text s :: rest => nest? (if s = [] then nodes else .text s :: nodes) frames rest
  | .tag (.print path) :: rest => nest? (.print path :: nodes) frames rest
  | .tag .call :: rest => nest? (.unknown :: nodes) frames rest
  | .tag .comment :: rest => nest? nodes frames rest
  | .tag (.start name arguments) :: rest => nest? [] (⟨name, arguments, nodes, none⟩ :: frames) rest
  | .tag .divide :: rest =>
    match frames with
    | ⟨name, arguments, outer, none⟩ :: frames =>
      nest? [] (⟨name, arguments, outer, some nodes.reverse⟩ :: frames) rest
    | _ => none
  | .tag (.finish name) :: rest =>
    match frames with
    | f :: frames =>
      if f.name = name then nest? (f.node nodes.reverse :: f.outer) frames rest else none
    | [] => none

/-- The nodes of a source, if it can be read. -/
def parse? (source : String) : Option (List Node) := do
  let s := source.toList
  let cut ← cut? (s.length + 1) s
  nest? [] [] cut.tokens

end LuaStubs.Template
