import LuaStubs.Text.Case

/-!
# Case mappings and ASCII

The case mappings keep ASCII apart from the other characters, but for a few of
these: the Kelvin sign is a `k` in lower case (`exists_lower_beyond_ascii`), and
the characters of `upperToAscii` are ASCII letters in upper case
(`exists_upper_beyond_ascii`). What is in lower case stays so, and characters
that count as upper case are in it only where they have no other form
(`of_mem_lower`).
-/

namespace LuaStubs.Text

/-- The characters beyond ASCII that are letters of ASCII in upper case. -/
def upperToAscii : List Char :=
  ['\u00df', '\u0131', '\u017f', '\ufb00', '\ufb01', '\ufb02', '\ufb03', '\ufb04', '\ufb05', '\ufb06']

/-- The Kelvin sign, which is a letter of ASCII in lower case. -/
def kelvin : Char := '\u212a'

/-- The capital sharp s, which is a pair of letters of ASCII in the upper case of its lower case. -/
def capitalSharpS : Char := '\u1e9e'

/-! ## ASCII -/

theorem toNat_of_isUpper {c : Char} (h : c.isUpper = true) : 65 ≤ c.toNat ∧ c.toNat ≤ 90 :=
  of_decide_eq_true h

theorem toNat_of_isLower {c : Char} (h : c.isLower = true) : 97 ≤ c.toNat ∧ c.toNat ≤ 122 :=
  ⟨of_decide_eq_true (Bool.and_eq_true_iff.1 h).1, of_decide_eq_true (Bool.and_eq_true_iff.1 h).2⟩

theorem toNat_of_isDigit {c : Char} (h : c.isDigit = true) : 48 ≤ c.toNat ∧ c.toNat ≤ 57 :=
  ⟨of_decide_eq_true (Bool.and_eq_true_iff.1 h).1, of_decide_eq_true (Bool.and_eq_true_iff.1 h).2⟩

theorem toNat_lt_of_isAlphanum {c : Char} (h : c.isAlphanum = true) : c.toNat < 128 := by
  rcases Bool.or_eq_true_iff.1 h with h | h
  · rcases Bool.or_eq_true_iff.1 h with h | h
    · have hc := toNat_of_isUpper h
      omega
    · have hc := toNat_of_isLower h
      omega
  · have hc := toNat_of_isDigit h
    omega

/-- What holds of the code points of ASCII, one by one, holds of its characters. -/
theorem of_ascii {p : Char → Prop} {c : Char} (h : ∀ n < 128, p (Char.ofNat n)) (hc : c.toNat < 128) : p c := by
  rw [← Char.ofNat_toNat c]
  exact h _ hc

/-! ## Shifts -/

/-- A code point is shifted by a run that it lies in. -/
theorem exists_of_shiftBy? {table : List (Nat × Nat × Nat × Int)} {n m : Nat} (h : shiftBy? table n = some m) :
    ∃ r ∈ table, r.1 ≤ n ∧ n ≤ r.2.1 ∧ (n - r.1) % r.2.2.1 = 0 ∧ m = ((n : Int) + r.2.2.2).toNat := by
  obtain ⟨r, hr, rfl⟩ := Option.map_eq_some_iff.1 h
  have hrun := List.find?_some hr
  simp only [Bool.and_eq_true, decide_eq_true_eq, beq_iff_eq] at hrun
  exact ⟨r, List.mem_of_find?_eq_some hr, hrun.1.1, hrun.1.2, hrun.2, rfl⟩

/-- A run shifts to characters from `low` on. -/
def shiftsFrom (low : Int) (r : Nat × Nat × Nat × Int) : Bool :=
  low ≤ r.1 + r.2.2.2 && (r.2.1 + r.2.2.2 < 0xD800 || 0xE000 ≤ r.1 + r.2.2.2 && r.2.1 + r.2.2.2 < 0x110000)

theorem le_of_shiftsFrom {low : Int} {r : Nat × Nat × Nat × Int} (h : shiftsFrom low r = true) :
    low ≤ r.1 + r.2.2.2 := by
  simp only [shiftsFrom, Bool.and_eq_true, decide_eq_true_eq] at h
  exact h.1

theorem toNat_ofNat_shifted {r : Nat × Nat × Nat × Int} {n : Nat} (hlow : r.1 ≤ n) (hhigh : n ≤ r.2.1)
    (h : shiftsFrom 128 r = true) :
    ((Char.ofNat ((n : Int) + r.2.2.2).toNat).toNat : Int) = n + r.2.2.2 := by
  simp only [shiftsFrom, Bool.and_eq_true, Bool.or_eq_true, decide_eq_true_eq] at h
  have hvalid : (((n : Int) + r.2.2.2).toNat).isValidChar := by
    simp only [Nat.isValidChar]
    omega
  have hnat : (Char.ofNat ((n : Int) + r.2.2.2).toNat).toNat = ((n : Int) + r.2.2.2).toNat := by
    rw [Char.ofNat, dif_pos hvalid]
    rfl
  omega

/-- A character of a run that shifts beyond ASCII is shifted there. -/
theorem beyond_ascii_shifted {r : Nat × Nat × Nat × Int} {n : Nat} (hlow : r.1 ≤ n) (hhigh : n ≤ r.2.1)
    (h : shiftsFrom 128 r = true) : 128 ≤ (Char.ofNat ((n : Int) + r.2.2.2).toNat).toNat := by
  have hnat := toNat_ofNat_shifted hlow hhigh h
  have hfrom := le_of_shiftsFrom h
  omega

/-! ## Lower case -/

/-- A character beyond ASCII becomes two, or moves with a run, or stays as it is. -/
theorem lower_cases {c : Char} (h : 128 ≤ c.toNat) :
    c.toNat = 0x130 ∧ lower c = ['i', '\u0307'] ∨
      (∃ r ∈ lowerRuns, r.1 ≤ c.toNat ∧ c.toNat ≤ r.2.1 ∧ (c.toNat - r.1) % r.2.2.1 = 0 ∧
        lower c = [Char.ofNat ((c.toNat : Int) + r.2.2.2).toNat]) ∨
      lower c = [c] := by
  rw [lower, if_neg (Nat.not_lt.2 h)]
  split
  · next hdot => exact .inl ⟨hdot, rfl⟩
  · refine .inr ?_
    split
    · next m hm =>
      obtain ⟨r, hr, hlow, hhigh, hstep, rfl⟩ := exists_of_shiftBy? hm
      exact .inl ⟨r, hr, hlow, hhigh, hstep, rfl⟩
    · exact .inr rfl

/-- Lower case is one character, but for the dotted capital I. -/
theorem lower_eq (c : Char) : (∃ x, lower c = [x]) ∨ lower c = ['i', '\u0307'] := by
  rcases Nat.lt_or_ge c.toNat 128 with hc | hc
  · exact .inl ⟨c.toLower, by rw [lower, if_pos hc]⟩
  · rcases lower_cases hc with ⟨-, hlower⟩ | ⟨r, -, -, -, -, hlower⟩ | hlower
    · exact .inr hlower
    · exact .inl ⟨_, hlower⟩
    · exact .inl ⟨c, hlower⟩

theorem lowerRuns_shiftsFrom : ∀ r ∈ lowerRuns, r.1 = kelvin.toNat ∧ r.2.1 = kelvin.toNat ∨ shiftsFrom 128 r = true := by
  decide +kernel

/-- A run goes from no code point to one that is a letter of ASCII in upper case, but for the sharp s. -/
theorem lowerRuns_not_upperToAscii : ∀ r ∈ lowerRuns, r.1 = capitalSharpS.toNat ∧ r.2.1 = capitalSharpS.toNat ∨
    ∀ n ∈ upperToAscii.map Char.toNat, (n : Int) < r.1 + r.2.2.2 ∨ r.2.1 + r.2.2.2 < n := by
  decide +kernel

theorem eq_of_toNat_bounds {c d : Char} (hlow : d.toNat ≤ c.toNat) (hhigh : c.toNat ≤ d.toNat) : c = d :=
  Char.toNat_inj.1 (Nat.le_antisymm hhigh hlow)

/-- Of the characters beyond ASCII only the Kelvin sign is in ASCII in lower case. -/
theorem exists_lower_beyond_ascii {c : Char} (h : 128 ≤ c.toNat) (hc : c ≠ kelvin) :
    ∃ x ∈ lower c, 128 ≤ x.toNat := by
  rcases lower_cases h with ⟨-, hlower⟩ | ⟨r, hr, hlow, hhigh, -, hlower⟩ | hlower
  · exact ⟨'\u0307', by simp [hlower], by decide⟩
  · refine ⟨_, by rw [hlower]; exact List.mem_singleton_self _, ?_⟩
    rcases lowerRuns_shiftsFrom r hr with ⟨hfirst, hlast⟩ | hshift
    · exact absurd (eq_of_toNat_bounds (hfirst ▸ hlow) (hlast ▸ hhigh)) hc
    · exact beyond_ascii_shifted hlow hhigh hshift
  · exact ⟨c, by simp [hlower], h⟩

/-- The characters in the lower case of one beyond ASCII: those of the dotted capital I and of the Kelvin
sign, that to which a run leads, and the character itself where it has no other form. -/
theorem mem_lower_cases {c x : Char} (h : 128 ≤ c.toNat) (hx : x ∈ lower c) :
    (x = 'i' ∨ x = '\u0307' ∨ x = 'k') ∨
      (∃ r ∈ lowerRuns, r.1 ≤ c.toNat ∧ c.toNat ≤ r.2.1 ∧ (c.toNat - r.1) % r.2.2.1 = 0 ∧
        (x.toNat : Int) = c.toNat + r.2.2.2 ∧ (128 : Int) ≤ r.1 + r.2.2.2) ∨
      x = c ∧ lower c = [c] := by
  rcases lower_cases h with ⟨-, hlower⟩ | ⟨r, hr, hlow, hhigh, hstep, hlower⟩ | hlower
  · rw [hlower] at hx
    simp only [List.mem_cons, List.not_mem_nil, or_false] at hx
    exact .inl (hx.imp id .inl)
  · rcases lowerRuns_shiftsFrom r hr with ⟨hfirst, hlast⟩ | hshift
    · have hk : c = kelvin := eq_of_toNat_bounds (hfirst ▸ hlow) (hlast ▸ hhigh)
      rw [hk, show lower kelvin = ['k'] by decide, List.mem_singleton] at hx
      exact .inl (.inr (.inr hx))
    · rw [hlower, List.mem_singleton] at hx
      have hnat := toNat_ofNat_shifted hlow hhigh hshift
      exact .inr (.inl ⟨r, hr, hlow, hhigh, hstep, hx ▸ hnat, le_of_shiftsFrom hshift⟩)
  · rw [hlower, List.mem_singleton] at hx
    exact .inr (.inr ⟨hx, hlower⟩)

/-- In lower case, characters beyond ASCII have no characters of ASCII but small letters. -/
theorem isLower_of_mem_lower {c x : Char} (h : 128 ≤ c.toNat) (hx : x ∈ lower c) (hascii : x.toNat < 128) :
    x.isLower = true := by
  rcases mem_lower_cases h hx with (rfl | rfl | rfl) | ⟨r, -, hlow, -, -, hnat, hfrom⟩ | ⟨rfl, -⟩
  · decide
  · exact absurd hascii (by decide)
  · decide
  · omega
  · omega

/-! ## Lower case twice -/

/-- No number is in both progressions: one ends before the other begins, or they go by twos and one has
the even numbers and the other the odd ones. -/
def isApart (low high stride first last step : Nat) : Bool :=
  bif first.ble high && low.ble last then
    step.beq 2 && (low.beq high || stride.beq 2) && ((low + first) % 2).beq 1
  else true

theorem not_mem_of_isApart {low high stride first last step n : Nat} (h : isApart low high stride first last step = true)
    (hlow : low ≤ n) (hhigh : n ≤ high) (hstep : (n - low) % stride = 0) :
    (first ≤ n && n ≤ last && (n - first) % step == 0) = false := by
  rw [← Bool.not_eq_true]
  intro hn
  simp only [Bool.and_eq_true, decide_eq_true_eq, beq_iff_eq] at hn
  have hmeet : first.ble high = true ∧ low.ble last = true := by
    simp only [Nat.ble_eq]
    omega
  rw [isApart, hmeet.1, hmeet.2] at h
  simp only [Bool.and_self, cond_true, Bool.and_eq_true, Bool.or_eq_true, Nat.beq_eq] at h
  obtain ⟨⟨rfl, rfl | rfl⟩, hodd⟩ := h
  · omega
  · omega

/-- The characters of a progression stay as they are in lower case, and none counts as upper case. -/
def isSettled (low high stride : Nat) : Bool :=
  isApart low high stride 0x130 0x130 1 &&
    (lowerRuns.all fun r => isApart low high stride r.1 r.2.1 r.2.2.1) &&
    upperCaseRuns.all fun r => isApart low high stride r.1 r.2.1 r.2.2

theorem lowerRuns_isSettled :
    ∀ r ∈ lowerRuns, isSettled (r.1 + r.2.2.2).toNat (r.2.1 + r.2.2.2).toNat r.2.2.1 = true := by
  decide +kernel

theorem lower_of_isSettled {low high stride : Nat} {x : Char} (h : isSettled low high stride = true)
    (hlow : low ≤ x.toNat) (hhigh : x.toNat ≤ high) (hstep : (x.toNat - low) % stride = 0) (hx : 128 ≤ x.toNat) :
    lower x = [x] ∧ isUpper x = false := by
  simp only [isSettled, Bool.and_eq_true, List.all_eq_true] at h
  obtain ⟨⟨hdot, hruns⟩, hupper⟩ := h
  have hne : x.toNat ≠ 0x130 := fun heq => by
    simpa [heq] using not_mem_of_isApart hdot hlow hhigh hstep
  have hshift : shiftBy? lowerRuns x.toNat = none := by
    rw [shiftBy?, Option.map_eq_none_iff, List.find?_eq_none]
    intro r hr
    simp [not_mem_of_isApart (hruns r hr) hlow hhigh hstep]
  constructor
  · rw [lower, if_neg (Nat.not_lt.2 hx), if_neg hne, hshift]
  · rw [isUpper, if_neg (Nat.not_lt.2 hx), inRuns, List.any_eq_false]
    intro r hr
    simp [not_mem_of_isApart (hupper r hr) hlow hhigh hstep]

/-- A character of a lower case is in lower case, and it counts as upper case only if it is the character
itself. -/
theorem of_mem_lower {c x : Char} (hx : x ∈ lower c) : lower x = [x] ∧ (isUpper x = true → x = c) := by
  have hsmall (h : lower x = [x] ∧ isUpper x = false) : lower x = [x] ∧ (isUpper x = true → x = c) :=
    ⟨h.1, fun hupper => by simp [h.2] at hupper⟩
  rcases Nat.lt_or_ge c.toNat 128 with hc | hc
  · rw [lower, if_pos hc, List.mem_singleton] at hx
    subst hx
    exact hsmall (of_ascii (p := fun c => lower c.toLower = [c.toLower] ∧ isUpper c.toLower = false) (by decide) hc)
  rcases mem_lower_cases hc hx with (rfl | rfl | rfl) | ⟨r, hr, hlow, hhigh, hstep, hnat, hfrom⟩ | ⟨rfl, hlower⟩
  · exact hsmall (by decide)
  · exact hsmall (by decide)
  · exact hsmall (by decide)
  · have hoffset : x.toNat - (r.1 + r.2.2.2).toNat = c.toNat - r.1 := by omega
    exact hsmall (lower_of_isSettled (lowerRuns_isSettled r hr) (by omega) (by omega) (hoffset ▸ hstep) (by omega))
  · exact ⟨hlower, fun _ => rfl⟩

/-! ## Upper case -/

theorem upperRuns_shiftsFrom : ∀ r ∈ upperRuns,
    r.1 ∈ upperToAscii.map Char.toNat ∧ r.2.1 = r.1 ∨ shiftsFrom 128 r = true := by
  decide +kernel

theorem upperExpansions_beyond_ascii : ∀ e ∈ upperExpansions,
    e.1 ∈ upperToAscii.map Char.toNat ∨ ∃ n ∈ e.2, 128 ≤ (Char.ofNat n).toNat := by
  decide

/-- Of the characters beyond ASCII only those of `upperToAscii` are in ASCII in upper case. -/
theorem exists_upper_beyond_ascii {c : Char} (h : 128 ≤ c.toNat) (hc : c ∉ upperToAscii) :
    ∃ x ∈ upper c, 128 ≤ x.toNat := by
  rw [upper, if_neg (Nat.not_lt.2 h)]
  split
  · next ns hns =>
    obtain ⟨l, l', heq, -⟩ := List.lookup_eq_some_iff.1 hns
    rcases upperExpansions_beyond_ascii (c.toNat, ns) (by simp [heq]) with hmem | ⟨n, hn, hbeyond⟩
    · obtain ⟨u, hu, hcu⟩ := List.mem_map.1 hmem
      exact absurd (Char.toNat_inj.1 hcu ▸ hu) hc
    · exact ⟨_, List.mem_map_of_mem hn, hbeyond⟩
  · split
    · next m hm =>
      obtain ⟨r, hr, hlow, hhigh, -, rfl⟩ := exists_of_shiftBy? hm
      refine ⟨_, List.mem_singleton_self _, ?_⟩
      rcases upperRuns_shiftsFrom r hr with ⟨hmem, hlast⟩ | hshift
      · obtain ⟨u, hu, hfirst⟩ := List.mem_map.1 hmem
        exact absurd (eq_of_toNat_bounds (hfirst ▸ hlow) (hfirst ▸ hlast ▸ hhigh) ▸ hu) hc
      · exact beyond_ascii_shifted hlow hhigh hshift
    · exact ⟨c, List.mem_singleton_self _, h⟩

/-- The same of the upper case of the lower case. -/
theorem exists_upper_lower_beyond_ascii {c : Char} (h : 128 ≤ c.toNat)
    (hc : c ∉ kelvin :: capitalSharpS :: upperToAscii) : ∃ x ∈ toUpper (lower c), 128 ≤ x.toNat := by
  simp only [List.mem_cons, not_or] at hc
  obtain ⟨hkelvin, hsharp, hupper⟩ := hc
  have hstep {d : Char} (hd : d ∈ lower c) (hbeyond : 128 ≤ d.toNat) (hdu : d ∉ upperToAscii) :
      ∃ x ∈ toUpper (lower c), 128 ≤ x.toNat := by
    obtain ⟨x, hx, hle⟩ := exists_upper_beyond_ascii hbeyond hdu
    exact ⟨x, List.mem_flatMap.2 ⟨d, hd, hx⟩, hle⟩
  rcases lower_cases h with ⟨-, hlower⟩ | ⟨r, hr, hlow, hhigh, -, hlower⟩ | hlower
  · exact hstep (d := '\u0307') (by simp [hlower]) (by decide) (by decide)
  · rcases lowerRuns_shiftsFrom r hr with ⟨hfirst, hlast⟩ | hshift
    · exact absurd (eq_of_toNat_bounds (hfirst ▸ hlow) (hlast ▸ hhigh)) hkelvin
    rcases lowerRuns_not_upperToAscii r hr with ⟨hfirst, hlast⟩ | houtside
    · exact absurd (eq_of_toNat_bounds (hfirst ▸ hlow) (hlast ▸ hhigh)) hsharp
    have hmem : Char.ofNat ((c.toNat : Int) + r.2.2.2).toNat ∈ lower c := by
      rw [hlower]
      exact List.mem_singleton_self _
    refine hstep hmem (beyond_ascii_shifted hlow hhigh hshift) fun hupper => ?_
    have hnat := toNat_ofNat_shifted hlow hhigh hshift
    have hbounds := houtside _ (List.mem_map_of_mem hupper)
    omega
  · exact hstep (d := c) (by simp [hlower]) h hupper

end LuaStubs.Text
