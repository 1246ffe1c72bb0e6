import LuaStubs.Text.CaseTable

/-!
# Letter case

`lower` and `upper` are the full case mappings of a single character, which may
yield several characters; `isUpper` is the Uppercase property. The mappings of a
text are those of its characters, one by one.
-/

namespace LuaStubs.Text

/-- The upper-case property of a character. -/
def isUpper (c : Char) : Bool :=
  if c.toNat < 128 then c.isUpper else inRuns upperCaseRuns c.toNat

/-- The lower-case form of a character. Only the dotted capital I has one of two characters. -/
def lower (c : Char) : List Char :=
  if c.toNat < 128 then [c.toLower]
  else if c.toNat = 0x130 then ['i', '\u0307']
  else match shiftBy? lowerRuns c.toNat with
    | some n => [Char.ofNat n]
    | none => [c]

/-- The upper-case form of a character. -/
def upper (c : Char) : List Char :=
  if c.toNat < 128 then [c.toUpper]
  else match upperExpansions.lookup c.toNat with
    | some ns => ns.map Char.ofNat
    | none =>
      match shiftBy? upperRuns c.toNat with
      | some n => [Char.ofNat n]
      | none => [c]

/-- The lower-case form of a text, character by character. -/
def toLower (s : List Char) : List Char := s.flatMap lower

/-- The upper-case form of a text, character by character. -/
def toUpper (s : List Char) : List Char := s.flatMap upper

end LuaStubs.Text
