import LuaStubs.Toml.Value

/-!
# Bare values in TOML

Booleans, numbers and moments stand without quotes. `scalar?` tells what a bare
word is; numbers and moments have to be written as they should, but what they
stand for is not worked out.
-/

namespace LuaStubs.Toml

/-! ## Numbers -/

/-- Whether a text is digits of a kind, with single underscores between them. -/
def isDigits (isDigit : Char → Bool) : List Char → Bool
  | [] => false
  | [c] => isDigit c
  | c :: '_' :: cs => isDigit c && isDigits isDigit cs
  | c :: cs => isDigit c && isDigits isDigit cs

/-- Whether a text is decimal digits that do not start with a zero, or a single zero. -/
def isWhole (s : List Char) : Bool :=
  isDigits Char.isDigit s && (s.length == 1 || s.head? != some '0')

/-- A binary digit. -/
def isBinaryDigit (c : Char) : Bool := c == '0' || c == '1'

/-- An octal digit. -/
def isOctalDigit (c : Char) : Bool := '0' ≤ c && c ≤ '7'

/-- A hexadecimal digit. -/
def isHexDigit (c : Char) : Bool :=
  c.isDigit || ('a' ≤ c && c ≤ 'f') || ('A' ≤ c && c ≤ 'F')

/-- The text without a sign at its start. -/
def dropSign : List Char → List Char
  | '+' :: s => s
  | '-' :: s => s
  | s => s

/-- Whether a text is an integer: decimal with or without a sign, or in another base without one. -/
def isInteger : List Char → Bool
  | '0' :: 'x' :: s => isDigits isHexDigit s
  | '0' :: 'o' :: s => isDigits isOctalDigit s
  | '0' :: 'b' :: s => isDigits isBinaryDigit s
  | s => isWhole (dropSign s)

/-- The text behind the first character with a property, and the text before it. -/
def cutAt (p : Char → Bool) (s : List Char) : List Char × Option (List Char) :=
  match s.dropWhile fun c => !p c with
  | [] => (s, none)
  | _ :: rest => (s.takeWhile fun c => !p c, some rest)

/-- Whether a text is a number with places behind a point, an exponent or both, or one of the names
for infinity and for what is no number. -/
def isFloat (s : List Char) : Bool :=
  let (mantissa, exponent) := cutAt (fun c => c == 'e' || c == 'E') (dropSign s)
  let (whole, places) := cutAt (· == '.') mantissa
  dropSign s == "inf".toList || dropSign s == "nan".toList ||
    (isWhole whole && (places.isSome || exponent.isSome) && places.all (isDigits Char.isDigit) &&
      exponent.all fun e => isDigits Char.isDigit (dropSign e))

/-! ## Moments -/

/-- The number that a text of exactly `n` decimal digits stands for. -/
def fixedNumber? (n : Nat) (s : List Char) : Option Nat :=
  if s.length = n ∧ s.all Char.isDigit then
    some (s.foldl (fun v c => 10 * v + (c.toNat - '0'.toNat)) 0)
  else none

/-- Whether a text is a number of two digits that is at most `bound`. -/
def isTwoDigits (bound : Nat) (s : List Char) : Bool := (fixedNumber? 2 s).any (· ≤ bound)

/-- How many days a month has. -/
def daysIn (year month : Nat) : Nat :=
  if month = 2 then
    if year % 4 = 0 ∧ (year % 100 ≠ 0 ∨ year % 400 = 0) then 29 else 28
  else if month ∈ [4, 6, 9, 11] then 30
  else 31

/-- Whether a text is a date, as year, month and day with dashes between. -/
def isDate (s : List Char) : Bool :=
  match fixedNumber? 4 (s.take 4), s.drop 4 with
  | some year, '-' :: a :: b :: '-' :: day =>
    match fixedNumber? 2 [a, b], fixedNumber? 2 day with
    | some month, some day =>
      1 ≤ month && month ≤ 12 && 1 ≤ day && day ≤ daysIn year month
    | _, _ => false
  | _, _ => false

/-- Whether a text is a time of day: hours and minutes, and then seconds, with or without a
fraction, or nothing. -/
def isTime : List Char → Bool
  | a :: b :: ':' :: c :: d :: rest =>
    isTwoDigits 23 [a, b] && isTwoDigits 59 [c, d] &&
      match rest with
      | [] => true
      | ':' :: e :: f :: fraction =>
        isTwoDigits 60 [e, f] &&
          match fraction with
          | [] => true
          | '.' :: ds => !ds.isEmpty && ds.all Char.isDigit
          | _ => false
      | _ => false
  | _ => false

/-- Whether a text is the distance of a time from universal time. -/
def isOffset : List Char → Bool
  | ['Z'] => true
  | ['z'] => true
  | sign :: a :: b :: ':' :: minutes =>
    (sign == '+' || sign == '-') && isTwoDigits 24 [a, b] && isTwoDigits 59 minutes
  | _ => false

/-- What may stand between a date and a time. -/
def isTimeMark (c : Char) : Bool := c == 'T' || c == 't' || c == ' '

/-- Whether a text is a date, a time, or a date and a time with or without an offset. -/
def isMoment (s : List Char) : Bool :=
  isDate s || isTime s ||
    (isDate (s.take 10) &&
      match s.drop 10 with
      | mark :: rest =>
        let time := rest.takeWhile fun c => c.isDigit || c == ':' || c == '.'
        let offset := rest.drop time.length
        isTimeMark mark && isTime time && (offset.isEmpty || isOffset offset)
      | [] => false)

/-! ## Bare words -/

/-- A character of a bare word. -/
def isWordPart (c : Char) : Bool :=
  c.isAlphanum || c == '+' || c == '-' || c == '_' || c == '.' || c == ':'

/-- Reads a bare word. A date goes on behind a blank with a time, if one follows. -/
def readWord (s : List Char) : List Char × List Char :=
  let word := s.takeWhile isWordPart
  match s.dropWhile isWordPart with
  | ' ' :: c :: rest =>
    if isDate word && c.isDigit then
      (word ++ ' ' :: (c :: rest).takeWhile isWordPart, (c :: rest).dropWhile isWordPart)
    else (word, ' ' :: c :: rest)
  | rest => (word, rest)

/-- The value that a bare word stands for. -/
def scalar? (word : List Char) : Option Value :=
  if word = "true".toList then some (.boolean true)
  else if word = "false".toList then some (.boolean false)
  else if isInteger word || isFloat word then some (.number (String.ofList word))
  else if isMoment word then some (.moment (String.ofList word))
  else none

end LuaStubs.Toml
