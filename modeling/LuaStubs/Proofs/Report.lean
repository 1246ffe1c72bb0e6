import Mathlib.Data.List.Basic
import LuaStubs.Report

/-!
# Repeated names

The names that `repeatedNames` finds are those that a list has at least twice
(`mem_repeatedNames_iff`), in the order in which they first occur
(`pairwise_repeatedNames`). So a report tells the names that it has generated more
than once, and nothing else of it changes (`collisions_detectCollisions`).
-/

namespace LuaStubs

theorem mem_repeatedNames_iff {n : String} {xs : List String} : n ∈ repeatedNames xs ↔ 2 ≤ xs.count n := by
  induction xs with
  | nil => simp [repeatedNames]
  | cons x xs ih =>
    rw [repeatedNames]
    by_cases hx : x = n
    · subst hx
      rw [List.count_cons_self]
      split
      · next hmem =>
        have hcount : 1 ≤ xs.count x := List.one_le_count_iff.2 hmem
        simp only [List.mem_cons, true_or, true_iff]
        omega
      · next hmem =>
        have hcount : xs.count x = 0 := List.count_eq_zero.2 hmem
        rw [ih]
        omega
    · rw [List.count_cons_of_ne hx, ← ih]
      split
      · simp only [List.mem_cons, Ne.symm hx, false_or, List.mem_filter, ne_eq, not_false_eq_true, decide_true,
          and_true]
      · rfl

theorem mem_of_mem_repeatedNames {n : String} {xs : List String} (h : n ∈ repeatedNames xs) : n ∈ xs :=
  List.one_le_count_iff.1 (Nat.le_of_succ_le (mem_repeatedNames_iff.1 h))

/-- Repeated names are in the order of their first occurrences. -/
theorem pairwise_repeatedNames (xs : List String) :
    (repeatedNames xs).Pairwise fun a b => xs.idxOf a < xs.idxOf b := by
  induction xs with
  | nil => exact .nil
  | cons x xs ih =>
    -- All names but the first one occur one place later, so their order stays.
    have later {l : List String} (hl : l.Pairwise fun a b => xs.idxOf a < xs.idxOf b) (hx : x ∉ l) :
        l.Pairwise fun a b => (x :: xs).idxOf a < (x :: xs).idxOf b := by
      have hne {y : String} (hy : y ∈ l) : x ≠ y := fun h => hx (h ▸ hy)
      refine hl.imp_of_mem fun {a b} ha hb hlt => ?_
      rw [List.idxOf_cons_ne xs (hne ha), List.idxOf_cons_ne xs (hne hb)]
      exact Nat.succ_lt_succ hlt
    rw [repeatedNames]
    split
    · refine List.pairwise_cons.2 ⟨fun b hb => ?_, later (ih.filter _) (by simp)⟩
      have hne : x ≠ b := by
        rintro rfl
        simp at hb
      rw [List.idxOf_cons_self, List.idxOf_cons_ne xs hne]
      exact Nat.succ_pos _
    · next hmem => exact later ih fun h => hmem (mem_of_mem_repeatedNames h)

example : repeatedNames ["party_join", "match_join", "match_join", "status", "party_join", "match_join"] =
    ["party_join", "match_join"] := by
  decide

/-- The collisions of a report are the names that at least two of its generated entities have, of whatever
kind, each once and in the order of their first occurrences. All else is as it was, earlier collisions make no
difference, and nothing changes when they are looked for again. -/
theorem Report.collisions_detectCollisions (r : Report) :
    (∀ n, n ∈ r.detectCollisions.collisions ↔ 2 ≤ r.generated.countP fun g => g.name = n) ∧
    r.detectCollisions.collisions.Nodup ∧
    (r.detectCollisions.collisions.Pairwise fun a b =>
      r.generated.findIdx (fun g => g.name = a) < r.generated.findIdx fun g => g.name = b) ∧
    (r.detectCollisions.surface = r.surface ∧ r.detectCollisions.generated = r.generated ∧
      r.detectCollisions.skipped = r.skipped ∧ r.detectCollisions.bytes = r.bytes) ∧
    (∀ earlier, { r with collisions := earlier }.detectCollisions = r.detectCollisions) ∧
    r.detectCollisions.detectCollisions = r.detectCollisions := by
  have hcount (n : String) : (r.generated.map Generated.name).count n = r.generated.countP fun g => g.name = n := by
    rw [List.count, List.countP_map]
    rfl
  have hfirst (n : String) :
      (r.generated.map Generated.name).idxOf n = r.generated.findIdx fun g => g.name = n := by
    rw [List.idxOf, List.findIdx_map]
    rfl
  have horder : r.detectCollisions.collisions.Pairwise fun a b =>
      r.generated.findIdx (fun g => g.name = a) < r.generated.findIdx fun g => g.name = b := by
    simp only [← hfirst]
    exact pairwise_repeatedNames _
  refine ⟨fun n => ?_, ?_, horder, ⟨rfl, rfl, rfl, rfl⟩, fun _ => rfl, rfl⟩
  · rw [← hcount]
    exact mem_repeatedNames_iff
  · refine horder.imp fun {a b} hlt heq => ?_
    rw [heq] at hlt
    exact Nat.lt_irrefl _ hlt

end LuaStubs
