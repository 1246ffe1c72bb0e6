import LuaStubs.Decimal.Shortest

/-!
# The digits of a float

A decimal that reads back as a number other than zero is not zero either. Where
no decimal of 17 digits reads back, the number is cut, and that leaves nothing
only where the last place is far behind the point (`digits_shortest`).
-/

namespace LuaStubs

theorem tenPow_pos (k : Nat) : 0 < tenPow k := Nat.pow_pos (by decide)

theorem tenPow_add (j k : Nat) : tenPow (j + k) = tenPow j * tenPow k := Nat.pow_add ..

theorem twoPow_pos (k : Nat) : 0 < twoPow k := Nat.pow_pos (by decide)

namespace Decimal

theorem dropZeros_of_digits_eq_zero {d : Decimal} (h : d.digits = 0) (fuel : Nat) : d.dropZeros fuel = d := by
  cases fuel with
  | zero => rfl
  | succ fuel => rw [dropZeros, if_neg fun hand => hand.1 h]

theorem digits_dropZeros_ne_zero {d : Decimal} (h : d.digits ≠ 0) (fuel : Nat) : (d.dropZeros fuel).digits ≠ 0 := by
  induction fuel generalizing d with
  | zero => exact h
  | succ fuel ih =>
    rw [dropZeros]
    split
    · next hand => exact ih (by dsimp only; omega)
    · exact h

end Decimal

namespace Binary64

variable {x : Binary64}

/-- Zero reads back as zero alone. -/
theorem readsBack_zero (hx : x.mantissa ≠ 0) (p : Int) : x.readsBack ⟨0, p⟩ = false := by
  have hlow : 0 < x.interval.1.1 := by
    have hbelow : 0 < if x.mantissa = twoPow 52 ∧ -1074 < x.exponent then 4 * x.mantissa - 1
        else 4 * x.mantissa - 2 := by
      split <;> omega
    dsimp only [interval]
    split
    · exact hbelow
    · exact Nat.mul_pos hbelow (twoPow_pos _)
  have hnum : (Decimal.fraction ⟨0, p⟩).1 = 0 := by
    rw [Decimal.fraction]
    split
    · rfl
    · exact Nat.zero_mul _
  have hden : 0 < (Decimal.fraction ⟨0, p⟩).2 := by
    rw [Decimal.fraction]
    split
    · exact tenPow_pos _
    · exact Nat.one_pos
  have hproduct := Nat.mul_pos hlow hden
  have hprecedes (closed : Bool) : precedes closed x.interval.1 (Decimal.fraction ⟨0, p⟩) = false := by
    rw [precedes, hnum, Nat.zero_mul]
    split
    · exact decide_eq_false (Nat.not_le.2 hproduct)
    · exact decide_eq_false (Nat.not_lt.2 (Nat.zero_le _))
  rw [readsBack]
  exact Bool.and_eq_false_iff.2 (.inl (hprecedes _))

theorem digits_of_hitOn? (hx : x.mantissa ≠ 0) {p : Int} {d : Decimal} (h : x.hitOn? p = some d) : d.digits ≠ 0 := by
  have hlow : x.readsBack ⟨(x.onGrid p).1, p⟩ = true → (x.onGrid p).1 ≠ 0 := fun hback hzero => by
    rw [hzero, readsBack_zero hx] at hback
    cases hback
  simp only [hitOn?] at h
  split at h
  · next hback _ =>
    split at h <;> cases h
    · exact hlow hback
    · exact Nat.succ_ne_zero _
  · next hback _ =>
    cases h
    exact hlow hback
  · cases h
    exact Nat.succ_ne_zero _
  · cases h

/-- The first hit is one, or what is left of the number on the last grid. -/
theorem firstHit_cases (hx : x.mantissa ≠ 0) (fuel : Nat) (p : Int) :
    (x.firstHit fuel p).digits ≠ 0 ∨ x.firstHit fuel p = ⟨(x.onGrid (p - fuel)).1, p - fuel⟩ := by
  induction fuel generalizing p with
  | zero =>
    right
    rw [firstHit, Int.natCast_zero, Int.sub_zero]
  | succ fuel ih =>
    rw [firstHit]
    split
    · next d hhit => exact .inl (digits_of_hitOn? hx hhit)
    · have hp : p - 1 - fuel = p - (fuel + 1 : Nat) := by omega
      rw [← hp]
      exact ih (p - 1)

/-- On grids before the point, something is left of a number with places above the grid. -/
theorem onGrid_ne_zero {p : Nat} (hp : 0 < p) (h : (p : Int) ≤ x.decimalExponent) : (x.onGrid p).1 ≠ 0 := by
  obtain ⟨hden, hexponent⟩ : 0 < x.fraction.2 ∧
      x.decimalExponent = ((Nat.toDigits 10 (x.fraction.1 * tenPow 400 / x.fraction.2)).length : Int) - 401 := by
    refine ⟨?_, rfl⟩
    rw [fraction]
    split
    · exact twoPow_pos _
    · exact Nat.one_pos
  have hlength : ¬ (Nat.toDigits 10 (x.fraction.1 * tenPow 400 / x.fraction.2)).length ≤ p + 400 := by omega
  have hscaled : tenPow (p + 400) ≤ x.fraction.1 * tenPow 400 / x.fraction.2 :=
    Nat.not_lt.1 (mt (Nat.length_toDigits_le_iff (by decide) (by omega)).2 hlength)
  rw [Nat.le_div_iff_mul_le hden, tenPow_add, Nat.mul_right_comm] at hscaled
  have hnum : tenPow p * x.fraction.2 ≤ x.fraction.1 := Nat.le_of_mul_le_mul_right hscaled (tenPow_pos _)
  have hgrid : (x.onGrid p).1 = x.fraction.1 / (x.fraction.2 * tenPow p) := by
    simp only [onGrid, if_neg (Int.not_lt.2 (Int.natCast_nonneg p)), Int.toNat_natCast]
  rw [hgrid]
  have hpos : 0 < x.fraction.2 * tenPow p := Nat.mul_pos hden (tenPow_pos p)
  exact Nat.ne_of_gt (Nat.div_pos (Nat.mul_comm .. ▸ hnum) hpos)

theorem digits_shortest (hx : x.isZero = false) : x.shortest.digits ≠ 0 ∨ x.shortest.exponent ≤ 0 := by
  have hmantissa : x.mantissa ≠ 0 := by simpa [isZero] using hx
  rw [shortest, hx]
  simp only [Bool.false_eq_true, if_false]
  rcases firstHit_cases hmantissa 17 x.decimalExponent with hne | hcut
  · exact .inl (Decimal.digits_dropZeros_ne_zero hne 2)
  -- The number was cut on the last grid: before the point that leaves something, and behind it the exponent is
  -- not positive.
  · rcases Int.lt_or_le 0 (x.decimalExponent - (17 : Nat)) with hpos | hle
    · left
      refine Decimal.digits_dropZeros_ne_zero ?_ 2
      obtain ⟨p, hp⟩ := Int.eq_ofNat_of_zero_le (Int.le_of_lt hpos)
      rw [hcut, hp]
      exact onGrid_ne_zero (by omega) (by omega)
    · by_cases hzero : (x.firstHit 17 x.decimalExponent).digits = 0
      · right
        rw [Decimal.dropZeros_of_digits_eq_zero hzero, hcut]
        exact hle
      · exact .inl (Decimal.digits_dropZeros_ne_zero hzero 2)

end Binary64

end LuaStubs
