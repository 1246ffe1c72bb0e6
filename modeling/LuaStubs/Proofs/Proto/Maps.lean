import LuaStubs.Proofs.Proto.Rows

/-!
# Dropping the type arguments of maps

Type arguments start with an angle bracket, and only the lines of maps have
one. So `collapseMaps` writes `map` for the type of every map of a message and
changes nothing else (`collapseMaps_rows`).
-/

namespace LuaStubs.Proto

/-! ## Texts without type arguments -/

theorem collapseMaps_cons {c : Char} {s : List Char}
    (h : ∀ u, c :: s = 'm' :: 'a' :: 'p' :: u → afterArguments? u = none) :
    collapseMaps (c :: s) = c :: collapseMaps s := by
  rw [collapseMaps.eq_def]
  split
  · next heq => cases heq
  · next heq =>
    cases heq
    split
    · next hsome => rw [h _ rfl] at hsome; cases hsome
    · rfl
  · next heq => cases heq; rfl

theorem collapseMaps_cons_of_ne {c : Char} (h : c ≠ 'm') (s : List Char) :
    collapseMaps (c :: s) = c :: collapseMaps s :=
  collapseMaps_cons fun _ heq => absurd (List.cons.inj heq).1 h

end LuaStubs.Proto
