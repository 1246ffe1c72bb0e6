/-!
# Binary64 numbers in exact arithmetic

A finite binary64 number is a sign, a mantissa and a power of two.
`Binary64.ofRatio` rounds a quotient of naturals to the nearest one, a tie to
the even mantissa; products, quotients and powers of ten are rounded with it.
Nothing here touches machine floating point.
-/

namespace LuaStubs

/-- Two to the power `k`. -/
def twoPow (k : Nat) : Nat := Nat.pow 2 k

/-- Ten to the power `k`. -/
def tenPow (k : Nat) : Nat := Nat.pow 10 k

/-- The number `± mantissa * 2 ^ exponent`. Values made in this module are in canonical form: the
mantissa is below `2 ^ 53`, and at least `2 ^ 52` unless the exponent is the least one, `-1074`. -/
structure Binary64 where
  negative : Bool
  mantissa : Nat
  exponent : Int
  deriving DecidableEq, Repr

namespace Binary64

instance : Inhabited Binary64 := ⟨⟨false, 0, -1074⟩⟩

/-- Positive zero. -/
def zero : Binary64 := ⟨false, 0, -1074⟩

/-- The number with the given sign. -/
def withSign (negative : Bool) (x : Binary64) : Binary64 := { x with negative }

/-- Zero of either sign. -/
def isZero (x : Binary64) : Bool := x.mantissa == 0

/-- A number that is neither zero nor below the least number with a full mantissa. -/
def isNormal (x : Binary64) : Bool := twoPow 52 ≤ x.mantissa

/-- The magnitude as a fraction. -/
def fraction (x : Binary64) : Nat × Nat :=
  if x.exponent < 0 then (x.mantissa, twoPow (-x.exponent).toNat)
  else (x.mantissa * twoPow x.exponent.toNat, 1)

/-- `num / den` in units of `2 ^ e`, as a fraction. -/
def inUnits (num den : Nat) (e : Int) : Nat × Nat :=
  if e < 0 then (num * twoPow (-e).toNat, den) else (num, den * twoPow e.toNat)

/-- The natural nearest to `num / den`, the even one of two. -/
def roundDiv (num den : Nat) : Nat :=
  let q := num / den
  let r := num % den
  if den < 2 * r then q + 1
  else if 2 * r = den then q + q % 2
  else q

/-- The exponent of the least unit in which `num / den` has at most 53 binary digits, but not below
the least exponent. -/
def unitExponent (num den : Nat) : Int :=
  let e := max ((num.log2 : Int) - den.log2 - 53) (-1074)
  let (n, d) := inUnits num den e
  if twoPow 53 ≤ n / d then e + 1 else e

/-- The binary64 number nearest to `num / den`, or nothing if that lies beyond the greatest one. -/
def ofRatio (num den : Nat) : Option Binary64 :=
  if num = 0 then some zero
  else
    let e := unitExponent num den
    let (n, d) := inUnits num den e
    let q := roundDiv n d
    let (m, e) := if q = twoPow 53 then (twoPow 52, e + 1) else (q, e)
    if 971 < e then none else some ⟨false, m, e⟩

/-- The binary64 number nearest to a natural. -/
def ofNat (n : Nat) : Option Binary64 := ofRatio n 1

/-- The product of two magnitudes. -/
def mul (x y : Binary64) : Option Binary64 :=
  ofRatio (x.fraction.1 * y.fraction.1) (x.fraction.2 * y.fraction.2)

/-- The quotient of two magnitudes. -/
def div (x y : Binary64) : Option Binary64 :=
  ofRatio (x.fraction.1 * y.fraction.2) (x.fraction.2 * y.fraction.1)

/-- The binary64 number nearest to a power of ten, up to `10 ^ 308`. -/
def powerOfTen (k : Nat) : Option Binary64 := ofNat (tenPow k)

/-- The magnitude `x / 10 ^ k`, divided in steps of at most `10 ^ 308`. -/
def divPowerOfTen (x : Binary64) (k : Nat) : Option Binary64 :=
  if k ≤ 308 then (powerOfTen k).bind x.div
  else if x.isZero then some x
  else do
    let p ← powerOfTen 308
    let y ← x.div p
    divPowerOfTen y (k - 308)
termination_by k

/-- The magnitude `significand * 10 ^ exponent`: the significand is rounded, and so is the power of
ten, before they are multiplied or divided. A value beyond the greatest number is none. -/
def ofScientific (significand : Nat) (exponent : Int) : Option Binary64 := do
  let x ← ofNat significand
  if exponent < 0 then divPowerOfTen x (-exponent).toNat
  else if exponent ≤ 308 then
    let p ← powerOfTen exponent.toNat
    x.mul p
  else if x.isZero then some x
  else none

end Binary64

end LuaStubs
