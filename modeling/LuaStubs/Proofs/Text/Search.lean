import LuaStubs.Text.Search

/-!
# First occurrences

`splitAt?` cuts a text at the first occurrence of a mark (`splitAt?_eq_some_iff`).
A mark of two equal characters is found where it ends a text just if that text
does not have it (`splitAt?_twice_iff`).
-/

namespace LuaStubs.Text

/-- The text is cut at an occurrence of the mark, and no occurrence is further to the left. -/
theorem splitAt?_eq_some_iff {mark s a b : List Char} : splitAt? mark s = some (a, b) ↔
    s = a ++ mark ++ b ∧ ∀ a', a' ++ mark <+: s → a.length ≤ a'.length := by
  induction s generalizing a with
  | nil =>
    rw [splitAt?, Option.map_eq_some_iff]
    constructor
    · rintro ⟨rest, hrest, heq⟩
      cases heq
      exact ⟨by simpa using dropLead?_eq_some_iff.1 hrest, fun a' _ => Nat.zero_le _⟩
    · rintro ⟨heq, -⟩
      obtain ⟨rfl, rfl, rfl⟩ : a = [] ∧ mark = [] ∧ b = [] := by simpa using heq.symm
      exact ⟨[], rfl, rfl⟩
  | cons c cs ih =>
    rw [splitAt?]
    cases hlead : dropLead? mark (c :: cs) with
    | some rest =>
      have hs : c :: cs = mark ++ rest := dropLead?_eq_some_iff.1 hlead
      simp only [Option.some.injEq, Prod.mk.injEq]
      constructor
      · rintro ⟨rfl, rfl⟩
        exact ⟨hs, fun a' _ => Nat.zero_le _⟩
      · rintro ⟨heq, hfirst⟩
        have hnil : a = [] := List.eq_nil_of_length_eq_zero
          (Nat.le_zero.1 (hfirst [] (hs ▸ List.prefix_append mark rest)))
        subst hnil
        exact ⟨rfl, List.append_cancel_left (hs.symm.trans heq)⟩
    | none =>
      have hne (rest : List Char) : c :: cs ≠ mark ++ rest := fun hs => by
        rw [dropLead?_eq_some_iff.2 hs] at hlead
        cases hlead
      simp only [Option.map_eq_some_iff, Prod.mk.injEq]
      constructor
      · rintro ⟨⟨p, q⟩, hp, rfl, rfl⟩
        obtain ⟨heq, hfirst⟩ := ih.1 hp
        refine ⟨by simp [heq], fun a' ha' => ?_⟩
        cases a' with
        | nil =>
          obtain ⟨rest, hrest⟩ := ha'
          exact absurd hrest.symm (hne rest)
        | cons x xs => exact Nat.succ_le_succ (hfirst xs (List.cons_prefix_cons.1 ha').2)
      · rintro ⟨heq, hfirst⟩
        cases a with
        | nil => exact absurd heq (hne b)
        | cons x xs =>
          obtain ⟨rfl, hcs⟩ : c = x ∧ cs = xs ++ mark ++ b := by simpa using heq
          refine ⟨(xs, b), ih.2 ⟨hcs, fun a' ha' => ?_⟩, rfl, rfl⟩
          exact Nat.le_of_succ_le_succ (hfirst (c :: a') (List.cons_prefix_cons.2 ⟨rfl, ha'⟩))

/-- The first occurrence stays the first one when more text follows. -/
theorem splitAt?_append {mark s a b : List Char} (h : splitAt? mark s = some (a, b)) (t : List Char) :
    splitAt? mark (s ++ t) = some (a, b ++ t) := by
  obtain ⟨heq, hfirst⟩ := splitAt?_eq_some_iff.1 h
  refine splitAt?_eq_some_iff.2 ⟨by rw [heq, List.append_assoc], fun a' ha' => Nat.le_of_not_lt fun hlt => ?_⟩
  have hlength : (a' ++ mark).length ≤ s.length := by
    rw [heq]
    simp only [List.length_append]
    omega
  have hprefix : a' ++ mark <+: s := List.prefix_of_prefix_length_le ha' (List.prefix_append s t) hlength
  exact absurd (hfirst a' hprefix) (Nat.not_le_of_lt hlt)

/-- A mark of two equal characters behind a text that does not end with that character is the first
one just if the text has none. -/
theorem splitAt?_twice_iff {x c : Char} (hc : c ≠ x) (s rest : List Char) :
    splitAt? [x, x] (s ++ [c] ++ [x, x] ++ rest) = some (s ++ [c], rest) ↔ ¬ [x, x] <:+: s ++ [c] := by
  rw [splitAt?_eq_some_iff]
  constructor
  · rintro ⟨-, hfirst⟩ ⟨p, q, hpq⟩
    have hle := hfirst p ⟨q ++ [x, x] ++ rest, by rw [← hpq]; simp⟩
    have hlen := congrArg List.length hpq
    simp only [List.length_append, List.length_cons, List.length_nil] at hle hlen
    omega
  · intro hnone
    refine ⟨rfl, fun p hp => Nat.le_of_not_lt fun hlt => hnone ?_⟩
    have hs : s ++ [c] <+: s ++ [c] ++ [x, x] ++ rest := by simp
    rcases Nat.lt_or_ge (s ++ [c]).length (p ++ [x, x]).length with hlong | hshort
    · -- Only the second character of the mark would be behind the text.
      have hlast : s ++ [c] = p ++ [x] := by
        have hpre := List.prefix_of_prefix_length_le hs hp (Nat.le_of_lt hlong)
        have hp1 : p ++ [x] <+: p ++ [x, x] := ⟨[x], by simp⟩
        refine (List.prefix_of_prefix_length_le hpre hp1 ?_).eq_of_length ?_
        all_goals
          simp only [List.length_append, List.length_cons, List.length_nil] at hlt hlong ⊢
          omega
      exact absurd (List.append_inj' hlast rfl).2 (by simpa using hc)
    · exact (List.suffix_append p [x, x]).isInfix.trans (List.prefix_of_prefix_length_le hp hs hshort).isInfix

/-- A character that is not part of the mark keeps its occurrences apart. -/
theorem twice_infix_append_cons {x c : Char} (hc : c ≠ x) (s t : List Char) :
    [x, x] <:+: s ++ c :: t ↔ [x, x] <:+: s ∨ [x, x] <:+: t := by
  rw [List.infix_append_iff, List.infix_cons_iff]
  constructor
  · rintro (hs | (hpre | ht) | ⟨l₁, l₂, heq, hl₁, hl₂⟩)
    · exact .inl hs
    · exact absurd (List.cons_prefix_cons.1 hpre).1 hc.symm
    · exact .inr ht
    · cases l₂ with
      | nil => exact .inl (by rw [heq, List.append_nil]; exact hl₁.isInfix)
      | cons a as =>
        have hmem : c ∈ [x, x] := by
          rw [heq, (List.cons_prefix_cons.1 hl₂).1]
          simp
        exact absurd (by simpa using hmem) hc
  · rintro (hs | ht)
    · exact .inl hs
    · exact .inr (.inl (.inr ht))

end LuaStubs.Text
