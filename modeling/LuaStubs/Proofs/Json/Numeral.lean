import LuaStubs.Json.Token
import LuaStubs.Proofs.Decimal.Digits
import LuaStubs.Proofs.Decimal.Shortest

/-!
# Number literals

Every number is written as a literal of JSON, with or without a minus sign
(`Number.exists_numeral`): whole digits that start with a zero only if it is the
only one, and places and an exponent if need be (`Numeral`). In front of what may
follow a value (`Delimited`), a literal is passed over to its end
(`skipNumber_numeral`).
-/

namespace LuaStubs.Json

/-! ## Digits -/

/-- One or more digits. -/
def IsDigits (ds : List Char) : Prop := ds ≠ [] ∧ ds.all Char.isDigit = true

/-- A text does not start with a digit. -/
def NoDigit (s : List Char) : Prop := ∀ c ∈ s.head?, c.isDigit = false

theorem readDigits_append {ds s : List Char} (hds : IsDigits ds) (hs : NoDigit s) :
    readDigits (ds ++ s) = .ok (ds, s) := by
  have hall : ∀ c ∈ ds, c.isDigit = true := List.all_eq_true.1 hds.2
  have htake : s.takeWhile Char.isDigit = [] := by
    cases s with
    | nil => rfl
    | cons c s => exact List.takeWhile_cons_of_neg (by simpa using hs c rfl)
  have hdrop : s.dropWhile Char.isDigit = s := by
    cases s with
    | nil => rfl
    | cons c s => exact List.dropWhile_cons_of_neg (by simpa using hs c rfl)
  obtain ⟨c, cs, rfl⟩ := List.exists_cons_of_ne_nil hds.1
  rw [readDigits, List.takeWhile_append_of_pos hall, List.dropWhile_append_of_pos hall, htake, hdrop, List.append_nil]

theorem isDigits_digitsOf (n : Nat) : IsDigits (digitsOf n) := ⟨Nat.toDigits_ne_nil, all_isDigit_toDigits n⟩

theorem IsDigits.append {ds es : List Char} (h : IsDigits ds) (hes : es.all Char.isDigit = true) :
    IsDigits (ds ++ es) :=
  ⟨fun hnil => h.1 (List.append_eq_nil_iff.1 hnil).1, by rw [List.all_append, h.2, hes]; rfl⟩

theorem IsDigits.take {ds : List Char} (h : IsDigits ds) {k : Nat} (hk : 0 < k) : IsDigits (ds.take k) := by
  refine ⟨?_, List.all_eq_true.2 fun c hc => List.all_eq_true.1 h.2 c (List.mem_of_mem_take hc)⟩
  rw [Ne, List.take_eq_nil_iff]
  exact not_or.2 ⟨Nat.ne_of_gt hk, h.1⟩

theorem IsDigits.drop {ds : List Char} (h : IsDigits ds) {k : Nat} (hk : k < ds.length) : IsDigits (ds.drop k) := by
  refine ⟨?_, List.all_eq_true.2 fun c hc => List.all_eq_true.1 h.2 c (List.mem_of_mem_drop hc)⟩
  rw [Ne, List.drop_eq_nil_iff]
  exact Nat.not_le_of_lt hk

/-! ## Literals -/

/-- The whole part of a literal. -/
def IsWhole (ds : List Char) : Prop := ds = ['0'] ∨ IsDigits ds ∧ ds.head? ≠ some '0'

/-- The places of a literal, with the point in front; there may be none. -/
def IsPlaces (s : List Char) : Prop := s = [] ∨ ∃ ds, IsDigits ds ∧ s = '.' :: ds

/-- The exponent of a literal, with its sign; there may be none. -/
def IsExponent (s : List Char) : Prop := s = [] ∨ ∃ sign ds, sign ∈ ['+', '-'] ∧ IsDigits ds ∧ s = 'e' :: sign :: ds

/-- A number literal without a sign. -/
inductive Numeral : List Char → Prop where
  | mk {whole places exponent : List Char} :
    IsWhole whole → IsPlaces places → IsExponent exponent → Numeral (whole ++ places ++ exponent)

/-- A text starts with what may follow a value, or is over. -/
def Delimited (s : List Char) : Prop := ∀ c ∈ s.head?, isSpace c = true ∨ c = ',' ∨ c = ']' ∨ c = '\x7d'

theorem IsWhole.isDigits {ds : List Char} (h : IsWhole ds) : IsDigits ds := by
  rcases h with rfl | ⟨h, -⟩
  · exact ⟨List.cons_ne_nil _ _, by decide⟩
  · exact h

theorem isWhole_singleton {c : Char} (hc : c.isDigit = true) : IsWhole [c] := by
  by_cases hzero : c = '0'
  · exact .inl (hzero ▸ rfl)
  · exact .inr ⟨⟨List.cons_ne_nil _ _, by simpa using hc⟩, by simpa using hzero⟩

theorem isWhole_digitsOf (n : Nat) : IsWhole (digitsOf n) := by
  rcases Nat.eq_zero_or_pos n with rfl | hpos
  · exact .inl rfl
  · exact .inr ⟨isDigits_digitsOf n, head?_toDigits hpos⟩

theorem Numeral.exists_cons {s : List Char} (h : Numeral s) : ∃ c cs, s = c :: cs ∧ c.isDigit = true := by
  obtain ⟨hwhole, -, -⟩ := h
  obtain ⟨hne, hall⟩ := hwhole.isDigits
  obtain ⟨c, cs, rfl⟩ := List.exists_cons_of_ne_nil hne
  exact ⟨c, _, rfl, (Bool.and_eq_true _ _).mp hall |>.1⟩

/-! ## Reading -/

theorem not_delimiter_of_isDigit {c : Char} (hc : c.isDigit = true) :
    isSpace c = false ∧ c ∉ [',', ']', '\x7d', '-', '"', '[', '\x7b', 'n', 't', 'f', '.', 'e', 'E'] := by
  have hbounds := Text.toNat_of_isDigit hc
  exact Text.of_ascii (p := fun c => c.isDigit = true →
    isSpace c = false ∧ c ∉ [',', ']', '\x7d', '-', '"', '[', '\x7b', 'n', 't', 'f', '.', 'e', 'E']) (by decide)
    (by omega) hc

theorem Delimited.noDigit {s : List Char} (h : Delimited s) : NoDigit s := fun c hc => by
  cases hdigit : c.isDigit with
  | false => rfl
  | true =>
    obtain ⟨hspace, hnot⟩ := not_delimiter_of_isDigit hdigit
    rcases h c hc with h | rfl | rfl | rfl
    · rw [hspace] at h
      cases h
    · exact absurd hnot (by decide)
    · exact absurd hnot (by decide)
    · exact absurd hnot (by decide)

theorem Delimited.ne {s : List Char} (h : Delimited s) {c : Char} (hc : c ∈ s.head?) : c ≠ '.' ∧ c ≠ 'e' ∧ c ≠ 'E' := by
  rcases h c hc with h | rfl | rfl | rfl
  · refine ⟨?_, ?_, ?_⟩ <;> rintro rfl <;> exact absurd h (by decide)
  all_goals decide

theorem readExponent_append {exponent s : List Char} (hexponent : IsExponent exponent) (hs : Delimited s) :
    ∃ e, readExponent (exponent ++ s) = .ok (e, s) := by
  rcases hexponent with rfl | ⟨sign, ds, hsign, hds, rfl⟩
  · cases s with
    | nil => exact ⟨none, rfl⟩
    | cons c s =>
      obtain ⟨-, he, hE⟩ := hs.ne (c := c) rfl
      exact ⟨none, if_neg (not_or.2 ⟨he, hE⟩)⟩
  · have hread := readDigits_append hds hs.noDigit
    simp only [List.mem_cons, List.not_mem_nil, or_false] at hsign
    rcases hsign with rfl | rfl
    · exact ⟨some (false, ds), by simp [readExponent, readSign, hread, bind, Except.bind]⟩
    · exact ⟨some (true, ds), by simp [readExponent, readSign, hread, bind, Except.bind]⟩

theorem noDigit_exponent {exponent s : List Char} (hexponent : IsExponent exponent) (hs : Delimited s) :
    NoDigit (exponent ++ s) := by
  rcases hexponent with rfl | ⟨sign, ds, -, -, rfl⟩
  · exact hs.noDigit
  · rintro c ⟨⟩
    rfl

theorem readPlaces_append {places exponent s : List Char} (hplaces : IsPlaces places)
    (hexponent : IsExponent exponent) (hs : Delimited s) :
    ∃ ds, readPlaces (places ++ (exponent ++ s)) = .ok (ds, exponent ++ s) := by
  rcases hplaces with rfl | ⟨ds, hds, rfl⟩
  · refine ⟨[], ?_⟩
    rw [List.nil_append, readPlaces]
    rintro rest hrest
    rcases hexponent with rfl | ⟨sign, ds, -, -, rfl⟩
    · rw [List.nil_append] at hrest
      exact (hs.ne (c := '.') (hrest ▸ rfl)).1 rfl
    · cases hrest
  · exact ⟨ds, readDigits_append hds (noDigit_exponent hexponent hs)⟩

theorem noDigit_places {places exponent s : List Char} (hplaces : IsPlaces places)
    (hexponent : IsExponent exponent) (hs : Delimited s) : NoDigit (places ++ (exponent ++ s)) := by
  rcases hplaces with rfl | ⟨ds, -, rfl⟩
  · rw [List.nil_append]
    exact noDigit_exponent hexponent hs
  · rintro c ⟨⟩
    rfl

theorem readWhole_append {whole s : List Char} (hwhole : IsWhole whole) (hs : NoDigit s) :
    readWhole (whole ++ s) = .ok (whole, s) := by
  rcases hwhole with rfl | ⟨hdigits, hhead⟩
  · cases s with
    | nil => rfl
    | cons c s =>
      have hc : c.isDigit = false := hs c rfl
      simp [readWhole, hc]
  · rw [readWhole, readDigits_append hdigits hs]
    rintro rest hrest
    obtain ⟨c, cs, rfl⟩ := List.exists_cons_of_ne_nil hdigits.1
    cases hrest
    exact hhead rfl

/-- A literal is passed over to its end. -/
theorem skipNumber_numeral {t s : List Char} (ht : Numeral t) (hs : Delimited s) : skipNumber (t ++ s) = .ok s := by
  obtain ⟨hwhole, hplaces, hexponent⟩ := ht
  obtain ⟨ds, hreadPlaces⟩ := readPlaces_append hplaces hexponent hs
  obtain ⟨e, hreadExponent⟩ := readExponent_append hexponent hs
  have hreadWhole := readWhole_append hwhole (noDigit_places hplaces hexponent hs)
  simp only [skipNumber, readLiteral, List.append_assoc, hreadWhole, hreadPlaces, hreadExponent, bind, Except.bind]

/-! ## Writing -/

theorem isPlaces_cons {ds : List Char} (h : IsDigits ds) : IsPlaces ('.' :: ds) := .inr ⟨ds, h, rfl⟩

theorem isDigits_singleton {c : Char} (hc : c.isDigit = true) : IsDigits [c] :=
  ⟨List.cons_ne_nil _ _, by simpa using hc⟩

theorem Numeral.of_whole {whole exponent : List Char} (hwhole : IsWhole whole) (hexponent : IsExponent exponent) :
    Numeral (whole ++ exponent) := by
  simpa using Numeral.mk hwhole (.inl rfl) hexponent

theorem Numeral.of_places {whole ds : List Char} (hwhole : IsWhole whole) (hds : IsDigits ds) :
    Numeral (whole ++ '.' :: ds) := by
  simpa using Numeral.mk hwhole (isPlaces_cons hds) (.inl rfl)

/-- Digits with a point are a literal, but for those of zero with the point further behind. -/
theorem numeral_positional {n : Nat} {point : Int} (h : n ≠ 0 ∨ point ≤ 1) :
    Numeral (positional (digitsOf n) point) := by
  have hdigits := isDigits_digitsOf n
  have hne := hdigits.1
  have hlength : 0 < (digitsOf n).length := List.length_pos_iff.2 hne
  have hhead (hn : n ≠ 0) : (digitsOf n).head? ≠ some '0' := head?_toDigits (Nat.pos_of_ne_zero hn)
  rw [positional]
  split
  -- The point is in front of all digits, behind all of them, or between them.
  · have hplaces : IsDigits (List.replicate (-point).toNat '0' ++ digitsOf n) :=
      ⟨fun hnil => hne (List.append_eq_nil_iff.1 hnil).2, by simp [hdigits.2]⟩
    simpa using Numeral.of_places (.inl rfl) hplaces
  · next hpoint =>
    split
    · next hlong =>
      have hwhole : IsWhole (digitsOf n ++ List.replicate (point.toNat - (digitsOf n).length) '0') := by
        by_cases hn : n = 0
        -- Zeros behind that of zero would start the whole part with a zero.
        · subst hn
          have hnone : point.toNat - (digitsOf 0).length = 0 := by omega
          rw [hnone, List.replicate_zero, List.append_nil]
          exact isWhole_digitsOf 0
        · refine .inr ⟨hdigits.append (by simp), ?_⟩
          rw [List.head?_append, List.head?_eq_some_head hne, Option.some_or, ← List.head?_eq_some_head hne]
          exact hhead hn
      exact .of_places hwhole (isDigits_singleton rfl)
    · next hshort =>
      have hn : n ≠ 0 := fun hzero => by
        subst hzero
        have hone : (digitsOf 0).length = 1 := rfl
        omega
      have hwhole : IsWhole ((digitsOf n).take point.toNat) := by
        refine .inr ⟨hdigits.take (by omega), ?_⟩
        rw [List.head?_take, if_neg (by omega)]
        exact hhead hn
      exact .of_places hwhole (hdigits.drop (by omega))

theorem numeral_scientific (n : Nat) (exponent : Int) : Numeral (scientific (digitsOf n) exponent) := by
  have hexponent : IsExponent ('e' :: (if exponent < 0 then '-' else '+') :: digitsOf exponent.natAbs) := by
    refine .inr ⟨_, _, ?_, isDigits_digitsOf _, rfl⟩
    split <;> simp
  match digitsOf n, isDigits_digitsOf n with
  | [], hdigits => exact absurd rfl hdigits.1
  | [d], hdigits => exact .of_whole (isWhole_singleton (by simpa using hdigits.2)) hexponent
  | d :: e :: ds, hdigits =>
    have hall : d.isDigit = true ∧ (e :: ds).all Char.isDigit = true := by simpa using hdigits.2
    exact Numeral.mk (isWhole_singleton hall.1) (isPlaces_cons ⟨List.cons_ne_nil _ _, hall.2⟩) hexponent

theorem numeral_floatDigits (x : Binary64) : Numeral (floatDigits x) := by
  rw [floatDigits]
  split
  · exact .of_places (.inl rfl) (isDigits_singleton rfl)
  · next hzero =>
    split
    · refine numeral_positional ?_
      by_cases hdigits : x.shortest.digits = 0
      · right
        have hexponent := (Binary64.digits_shortest (Bool.eq_false_iff.2 hzero)).resolve_left (not_not_intro hdigits)
        have hone : (digitsOf x.shortest.digits).length = 1 := by
          rw [hdigits]
          rfl
        omega
      · exact .inl hdigits
    · exact numeral_scientific _ _

/-- A number is written as a literal, with or without a minus sign. -/
theorem Number.exists_numeral (n : Number) :
    ∃ t, Numeral t ∧ (n.text.toList = t ∨ n.text.toList = '-' :: t) := by
  have hnumeral (m : Nat) : Numeral (digitsOf m) := by
    simpa using Numeral.of_whole (isWhole_digitsOf m) (.inl rfl)
  cases n with
  | int n =>
    refine ⟨digitsOf n.natAbs, hnumeral _, ?_⟩
    rw [text, String.toList_ofList]
    split
    · exact .inr rfl
    · exact .inl rfl
  | float x =>
    refine ⟨floatDigits x, numeral_floatDigits x, ?_⟩
    rw [text, String.toList_ofList]
    split
    · exact .inr rfl
    · exact .inl rfl

end LuaStubs.Json
