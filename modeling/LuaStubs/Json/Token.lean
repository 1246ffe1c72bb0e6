import LuaStubs.Json.Fault

/-!
# Tokens of JSON text

A reader takes the characters that are left and gives what it has read with the
rest, or the first fault from the left. This module reads what stands between
structural characters: white space, strings, number literals and words. A string
or number whose content is not kept is only checked (`skipString`, `skipNumber`),
which lets lone surrogates and numbers of any size pass.
-/

namespace LuaStubs.Json

/-- A reader of values of type `α`. -/
abbrev Reader (α : Type) := List Char → Except Fault (α × List Char)

/-- White space between tokens. -/
def isSpace (c : Char) : Bool := c == ' ' || c == '\n' || c == '\t' || c == '\r'

/-- The text from the next token on. -/
def skipSpace (s : List Char) : List Char := s.dropWhile isSpace

/-- The fault of a text in which another character was due: it is either over or wrong. -/
def unexpected : List Char → Fault
  | [] => .truncated
  | _ :: _ => .malformed

/-! ## Strings -/

/-- The value of a hexadecimal digit. -/
def hexValue? (c : Char) : Option Nat :=
  if c.isDigit then some (c.toNat - '0'.toNat)
  else if 'a' ≤ c ∧ c ≤ 'f' then some (c.toNat - 'a'.toNat + 10)
  else if 'A' ≤ c ∧ c ≤ 'F' then some (c.toNat - 'A'.toNat + 10)
  else none

/-- The value of four hexadecimal digits. -/
def hexQuad? (a b c d : Char) : Option Nat := do
  pure (4096 * (← hexValue? a) + 256 * (← hexValue? b) + 16 * (← hexValue? c) + (← hexValue? d))

/-- The fault of an escape that is not followed by four hexadecimal digits: the text is too short if
fewer than four bytes are left. -/
def shortQuad (s : List Char) : Fault :=
  if (s.take 4).foldl (fun n c => n + c.utf8Size) 0 < 4 then .truncated else .malformed

/-- The character that a one-letter escape stands for. -/
def escaped? : Char → Option Char
  | '"' => some '"'
  | '\\' => some '\\'
  | '/' => some '/'
  | 'b' => some '\x08'
  | 'f' => some '\x0C'
  | 'n' => some '\n'
  | 'r' => some '\r'
  | 't' => some '\t'
  | _ => none

/-- The first half of a surrogate pair. -/
def isHighSurrogate (n : Nat) : Bool := 0xD800 ≤ n && n ≤ 0xDBFF

/-- The second half of a surrogate pair. -/
def isLowSurrogate (n : Nat) : Bool := 0xDC00 ≤ n && n ≤ 0xDFFF

/-- The code point of a surrogate pair. -/
def joinSurrogates (high low : Nat) : Nat := (high - 0xD800) * 1024 + (low - 0xDC00) + 0x10000

/-- Puts a character before the text that a reader has read. -/
def consTo (c : Char) : Except Fault (List Char × List Char) → Except Fault (List Char × List Char)
  | .ok (text, rest) => .ok (c :: text, rest)
  | .error e => .error e

/-- Reads a string from behind its opening quote on, to behind the closing one. -/
def readString : Reader (List Char)
  | [] => .error .truncated
  | '"' :: rest => .ok ([], rest)
  | '\\' :: 'u' :: a :: b :: c :: d :: rest =>
    match hexQuad? a b c d with
    | none => .error .malformed
    | some high =>
      if isLowSurrogate high then .error .malformed
      else if isHighSurrogate high then
        match rest with
        | '\\' :: 'u' :: e :: f :: g :: h :: rest =>
          match hexQuad? e f g h with
          | none => .error .malformed
          | some low =>
            if isLowSurrogate low then
              consTo (Char.ofNat (joinSurrogates high low)) (readString rest)
            else .error .malformed
        | '\\' :: 'u' :: rest => .error (shortQuad rest)
        | '\\' :: rest => .error (unexpected rest)
        | rest => .error (unexpected rest)
      else consTo (Char.ofNat high) (readString rest)
  | '\\' :: 'u' :: rest => .error (shortQuad rest)
  | ['\\'] => .error .truncated
  | '\\' :: c :: rest =>
    match escaped? c with
    | some e => consTo e (readString rest)
    | none => .error .malformed
  | c :: rest => if c.toNat < 32 then .error .malformed else consTo c (readString rest)

/-- Checks a string from behind its opening quote on, and gives the text behind the closing one. -/
def skipString : List Char → Except Fault (List Char)
  | [] => .error .truncated
  | '"' :: rest => .ok rest
  | '\\' :: 'u' :: a :: b :: c :: d :: rest =>
    match hexQuad? a b c d with
    | none => .error .malformed
    | some _ => skipString rest
  | '\\' :: 'u' :: rest => .error (shortQuad rest)
  | ['\\'] => .error .truncated
  | '\\' :: c :: rest => if (escaped? c).isSome then skipString rest else .error .malformed
  | c :: rest => if c.toNat < 32 then .error .malformed else skipString rest

/-! ## Numbers -/

/-- A number as it is written. -/
structure Literal where
  negative : Bool
  whole : List Char
  /-- The digits behind the point; none if there is no point. -/
  places : List Char
  /-- The exponent's sign and digits. -/
  exponent : Option (Bool × List Char)

/-- Reads one or more digits. -/
def readDigits : Reader (List Char) := fun s =>
  match s.takeWhile Char.isDigit with
  | [] => .error (unexpected s)
  | ds => .ok (ds, s.dropWhile Char.isDigit)

/-- Reads the digits before the point: a zero alone, or digits that do not start with one. -/
def readWhole : Reader (List Char)
  | '0' :: rest =>
    match rest with
    | c :: _ => if c.isDigit then .error .malformed else .ok (['0'], rest)
    | [] => .ok (['0'], rest)
  | s => readDigits s

/-- Reads a point and the digits behind it, if there is one. -/
def readPlaces : Reader (List Char)
  | '.' :: rest => readDigits rest
  | s => .ok ([], s)

/-- Reads the sign of an exponent: whether it is negative. -/
def readSign : List Char → Bool × List Char
  | '+' :: rest => (false, rest)
  | '-' :: rest => (true, rest)
  | s => (false, s)

/-- Reads an exponent, if there is one. -/
def readExponent : Reader (Option (Bool × List Char))
  | c :: rest =>
    if c = 'e' ∨ c = 'E' then do
      let (ds, rest') ← readDigits (readSign rest).2
      .ok (some ((readSign rest).1, ds), rest')
    else .ok (none, c :: rest)
  | [] => .ok (none, [])

/-- Reads a number literal from behind its sign on. -/
def readLiteral (negative : Bool) : Reader Literal := fun s => do
  let (whole, s) ← readWhole s
  let (places, s) ← readPlaces s
  let (exponent, s) ← readExponent s
  .ok (⟨negative, whole, places, exponent⟩, s)

/-- The value of a digit. -/
def digitValue (c : Char) : Nat := c.toNat - '0'.toNat

/-- The value of a text of digits. -/
def natOfDigits (ds : List Char) : Nat := ds.foldl (fun n d => 10 * n + digitValue d) 0

/-- Appends digits to a significand for as long as it stays below `2 ^ 64`; gives it with the number
of digits that are left over. -/
def extendSignificand (n : Nat) : List Char → Nat × Nat
  | [] => (n, 0)
  | d :: ds =>
    if 10 * n + digitValue d < twoPow 64 then extendSignificand (10 * n + digitValue d) ds
    else (n, ds.length + 1)

namespace Literal

/-- The power of ten that an exponent gives. -/
def power (l : Literal) : Int :=
  match l.exponent with
  | none => 0
  | some (true, ds) => -(natOfDigits ds : Int)
  | some (false, ds) => natOfDigits ds

/-- The literal as a binary64 number. Digits that the significand cannot hold count as zeros before
the point and for nothing behind it. -/
def float? (l : Literal) : Option Binary64 :=
  let (n, surplus) := extendSignificand 0 l.whole
  let (n, unused) := extendSignificand n l.places
  (Binary64.ofScientific n ((surplus : Int) - (l.places.length - unused : Nat) + l.power)).map
    (·.withSign l.negative)

/-- The number that a literal stands for: an integer where 64 bits hold it, and else a binary64
number. Minus zero is not an integer. -/
def number? (l : Literal) : Option Number :=
  if l.places = [] ∧ l.exponent = none then
    let n := natOfDigits l.whole
    if l.negative then
      if 0 < n ∧ n ≤ twoPow 63 then some (.int (-n)) else l.float?.map .float
    else if n < twoPow 64 then some (.int n)
    else l.float?.map .float
  else l.float?.map .float

end Literal

/-- Reads a number from behind its sign on. One beyond the range of binary64 is malformed. -/
def readNumber (negative : Bool) : Reader Number := fun s => do
  let (l, rest) ← readLiteral negative s
  match l.number? with
  | some n => .ok (n, rest)
  | none => .error .malformed

/-- Checks a number literal from behind its sign on. One that is not complete is malformed, also at
the end of the text. -/
def skipNumber (s : List Char) : Except Fault (List Char) :=
  match readLiteral false s with
  | .ok (_, rest) => .ok rest
  | .error _ => .error .malformed

/-! ## Words -/

/-- Reads the given characters. -/
def readWord : (word s : List Char) → Except Fault (List Char)
  | [], s => .ok s
  | _ :: _, [] => .error .truncated
  | a :: as, c :: cs => if a = c then readWord as cs else .error .malformed

end LuaStubs.Json
