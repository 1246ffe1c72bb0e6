import Mathlib.Data.List.Induction
import LuaStubs.Proofs.Text.Case

/-!
# Decimal digits

Digits that do not start with a zero are those of the number that they stand for
(`toDigits_ofDigitChars`), and zeros in front add nothing to it
(`ofDigitChars_dropWhile`).
-/

namespace LuaStubs

theorem all_isDigit_toDigits (n : Nat) : (Nat.toDigits 10 n).all Char.isDigit = true :=
  List.all_eq_true.2 fun _ hc => Nat.isDigit_of_mem_toDigits (by decide) (by decide) hc

/-- Only zero starts with a zero. -/
theorem head?_toDigits {n : Nat} (hn : 0 < n) : (Nat.toDigits 10 n).head? ≠ some '0' := by
  induction n using Nat.strongRecOn with
  | ind n ih =>
    rcases Nat.lt_or_ge n 10 with hsmall | hlarge
    · have hchar : ∀ n < 10, 0 < n → some (Nat.digitChar n) ≠ some '0' := by decide
      rw [Nat.toDigits_of_lt_base hsmall, List.head?_cons]
      exact hchar n hsmall hn
    · have hquotient : 0 < n / 10 := by omega
      have hhead := ih (n / 10) (by omega) hquotient
      rw [Nat.toDigits_of_base_le (by decide) hlarge]
      cases hdigits : Nat.toDigits 10 (n / 10) with
      | nil => exact absurd hdigits Nat.toDigits_ne_nil
      | cons c cs =>
        rw [hdigits] at hhead
        exact hhead

/-- A digit is that of its value. -/
theorem digitChar_of_isDigit {c : Char} (hc : c.isDigit = true) :
    c.toNat - '0'.toNat < 10 ∧ Nat.digitChar (c.toNat - '0'.toNat) = c := by
  have hbounds := Text.toNat_of_isDigit hc
  exact Text.of_ascii (p := fun c => c.isDigit = true →
    c.toNat - '0'.toNat < 10 ∧ Nat.digitChar (c.toNat - '0'.toNat) = c) (by decide) (by omega) hc

/-- Digits that do not start with a zero are written as they are read. -/
theorem toDigits_ofDigitChars {ds : List Char} (hdigits : ds.all Char.isDigit = true) (hne : ds ≠ [])
    (hhead : ds.head? ≠ some '0') : Nat.toDigits 10 (Nat.ofDigitChars 10 ds 0) = ds := by
  induction ds using List.reverseRecOn with
  | nil => exact absurd rfl hne
  | append_singleton ds d ih =>
    rw [List.all_append, Bool.and_eq_true] at hdigits
    have hd : d.isDigit = true := by simpa using hdigits.2
    obtain ⟨hlt, hchar⟩ := digitChar_of_isDigit hd
    rw [Nat.ofDigitChars_append, Nat.ofDigitChars_cons, Nat.ofDigitChars_nil]
    cases ds with
    | nil =>
      rw [Nat.ofDigitChars_nil, Nat.mul_zero, Nat.zero_add, Nat.toDigits_of_lt_base hlt]
      exact congrArg (· :: []) hchar
    | cons c cs =>
      have hfirst := ih hdigits.1 (List.cons_ne_nil _ _) hhead
      have hpos : 0 < Nat.ofDigitChars 10 (c :: cs) 0 := by
        refine Nat.pos_of_ne_zero fun hzero => ?_
        rw [hzero, Nat.toDigits_zero] at hfirst
        rw [← hfirst] at hhead
        exact hhead rfl
      rw [← Nat.toDigits_append_toDigits (by decide) hpos hlt, hfirst, Nat.toDigits_of_lt_base hlt]
      exact congrArg (fun x => c :: cs ++ [x]) hchar

/-- Zeros in front add nothing. -/
theorem ofDigitChars_dropWhile (ds : List Char) :
    Nat.ofDigitChars 10 (ds.dropWhile (· == '0')) 0 = Nat.ofDigitChars 10 ds 0 := by
  induction ds with
  | nil => rfl
  | cons d ds ih =>
    rw [List.dropWhile_cons]
    split
    · next hzero =>
      rw [ih, beq_iff_eq.1 hzero, Nat.ofDigitChars_cons]
      rfl
    · rfl

end LuaStubs
