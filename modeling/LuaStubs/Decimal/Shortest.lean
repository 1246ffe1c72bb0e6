import LuaStubs.Decimal.Binary64

/-!
# The fewest digits that read back

The reals that round to a binary64 number form an interval around it.
`Binary64.shortest` looks for a decimal number in that interval on grids of one
digit, two digits, and so on; the first grid with a hit decides, and of two hits
the nearer one is taken.
-/

namespace LuaStubs

/-- The decimal number `digits * 10 ^ exponent`. -/
structure Decimal where
  digits : Nat
  exponent : Int
  deriving DecidableEq, Repr, Inhabited

namespace Decimal

/-- The decimal as a fraction. -/
def fraction (d : Decimal) : Nat × Nat :=
  if d.exponent < 0 then (d.digits, tenPow (-d.exponent).toNat)
  else (d.digits * tenPow d.exponent.toNat, 1)

/-- The same number without trailing zeros among its digits; `fuel` bounds how many there are. -/
def dropZeros (fuel : Nat) (d : Decimal) : Decimal :=
  match fuel with
  | 0 => d
  | fuel + 1 =>
    if d.digits ≠ 0 ∧ d.digits % 10 = 0 then dropZeros fuel ⟨d.digits / 10, d.exponent + 1⟩ else d

end Decimal

namespace Binary64

/-- A fraction is below another one, or equal to it if `closed`. -/
def precedes (closed : Bool) (a b : Nat × Nat) : Bool :=
  if closed then a.1 * b.2 ≤ b.1 * a.2 else a.1 * b.2 < b.1 * a.2

/-- The end points of the reals that round to a nonzero number, both as fractions. Below a power of
two the neighbour is half as far away. -/
def interval (x : Binary64) : (Nat × Nat) × (Nat × Nat) :=
  let at4 (m : Nat) : Nat × Nat :=
    if x.exponent - 2 < 0 then (m, twoPow (2 - x.exponent).toNat)
    else (m * twoPow (x.exponent - 2).toNat, 1)
  let below := if x.mantissa = twoPow 52 ∧ -1074 < x.exponent then 4 * x.mantissa - 1
    else 4 * x.mantissa - 2
  (at4 below, at4 (4 * x.mantissa + 2))

/-- Whether a decimal reads back as the number. The ends of the interval belong to it if the
mantissa is even. -/
def readsBack (x : Binary64) (d : Decimal) : Bool :=
  let closed := x.mantissa % 2 == 0
  let (lo, hi) := x.interval
  precedes closed lo d.fraction && precedes closed d.fraction hi

/-- The decimal exponent of a positive magnitude: the greatest `k` with `10 ^ k` not above it. -/
def decimalExponent (x : Binary64) : Int :=
  let (n, d) := x.fraction
  ((Nat.toDigits 10 (n * tenPow 400 / d)).length : Int) - 401

/-- The magnitude cut to a multiple of `10 ^ p`, and its distances to that and to the next
multiple. -/
def onGrid (x : Binary64) (p : Int) : Nat × Nat × Nat :=
  let (n, d) := x.fraction
  let (n, d) := if p < 0 then (n * tenPow (-p).toNat, d) else (n, d * tenPow p.toNat)
  (n / d, n % d, d - n % d)

/-- A decimal on the grid of `10 ^ p` that reads back, the nearer one of two. -/
def hitOn? (x : Binary64) (p : Int) : Option Decimal :=
  let (q, below, above) := x.onGrid p
  let lo : Decimal := ⟨q, p⟩
  let hi : Decimal := ⟨q + 1, p⟩
  match x.readsBack lo, x.readsBack hi with
  | true, true => some (if below < above ∨ below = above ∧ q % 2 = 0 then lo else hi)
  | true, false => some lo
  | false, true => some hi
  | false, false => none

/-- The first hit on the grids of `count`, `count + 1`, … digits, tried `fuel` times. -/
def firstHit (x : Binary64) (fuel : Nat) (p : Int) : Decimal :=
  match fuel with
  | 0 => ⟨(x.onGrid p).1, p⟩
  | fuel + 1 =>
    match x.hitOn? p with
    | some d => d
    | none => firstHit x fuel (p - 1)

/-- The shortest decimal that reads back as the magnitude, zero for zero. -/
def shortest (x : Binary64) : Decimal :=
  if x.isZero then ⟨0, 0⟩ else (x.firstHit 17 x.decimalExponent).dropZeros 2

end Binary64

end LuaStubs
