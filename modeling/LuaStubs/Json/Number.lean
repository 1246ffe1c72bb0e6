import LuaStubs.Decimal.Shortest

/-!
# JSON numbers

A number is an integer of 64 bits, with or without a sign, or a binary64 number.
`Number.text` writes it. A floating-point number is written with its shortest
digits: positionally, with at least one place after the point, from `1e-5` up to
below `1e16`, and else with an exponent that has a sign.
-/

namespace LuaStubs.Json

/-- A JSON number. -/
inductive Number where
  | int (n : Int)
  | float (x : Binary64)
  deriving DecidableEq, Repr, Inhabited

/-- The decimal digits of a natural. -/
def digitsOf (n : Nat) : List Char := Nat.toDigits 10 n

/-- Decimal digits with the point `point` places after the first digit, for `-5 < point ≤ 16`. -/
def positional (digits : List Char) (point : Int) : List Char :=
  if point ≤ 0 then ['0', '.'] ++ List.replicate (-point).toNat '0' ++ digits
  else if (digits.length : Int) ≤ point then
    digits ++ List.replicate (point.toNat - digits.length) '0' ++ ['.', '0']
  else digits.take point.toNat ++ '.' :: digits.drop point.toNat

/-- Decimal digits with the point after the first one, and an exponent. -/
def scientific (digits : List Char) (exponent : Int) : List Char :=
  let mantissa := match digits with
    | d :: e :: ds => d :: '.' :: e :: ds
    | ds => ds
  mantissa ++ 'e' :: (if exponent < 0 then '-' else '+') :: digitsOf exponent.natAbs

/-- The digits of a magnitude, in one of the two notations. -/
def floatDigits (x : Binary64) : List Char :=
  let d := x.shortest
  let digits := digitsOf d.digits
  let point := (digits.length : Int) + d.exponent
  if x.isZero then ['0', '.', '0']
  else if -5 < point ∧ point ≤ 16 then positional digits point
  else scientific digits (point - 1)

namespace Number

/-- The text of a number. -/
def text : Number → String
  | int n => String.ofList (if n < 0 then '-' :: digitsOf n.natAbs else digitsOf n.natAbs)
  | float x => String.ofList (if x.negative then '-' :: floatDigits x else floatDigits x)

end Number

end LuaStubs.Json
