import LuaStubs.Attempt

/-!
# Accounts of attempts

A run attempts one entity after the other. `Accounts` says that each of them is
in the output or among the skips, once and in order; the successes and the
failures of the attempts are such an account (`Accounts.of_outcomes`). Where a
failure does end the run, `FailsIn` says of what kind it is, and `FailsJust` also
what it takes.
-/

namespace LuaStubs

variable {α β ε : Type}

@[simp]
theorem successes_ok (x : α) (xs : List (Except ε α)) : successes (.ok x :: xs) = x :: successes xs := rfl

@[simp]
theorem successes_error (e : ε) (xs : List (Except ε α)) : successes (.error e :: xs) = successes xs := rfl

@[simp]
theorem failures_ok (x : α) (xs : List (Except ε α)) : failures (.ok x :: xs) = failures xs := rfl

@[simp]
theorem failures_error (e : ε) (xs : List (Except ε α)) : failures (.error e :: xs) = e :: failures xs := rfl

theorem toOption_eq_some_iff {x : α} {y : Except ε α} : y.toOption = some x ↔ y = .ok x := by
  cases y <;> simp [Except.toOption]

theorem mem_successes_iff {x : α} {xs : List (Except ε α)} : x ∈ successes xs ↔ .ok x ∈ xs := by
  simp only [successes, List.mem_filterMap, toOption_eq_some_iff, exists_eq_right]

theorem mem_failures_iff {e : ε} {xs : List (Except ε α)} : e ∈ failures xs ↔ .error e ∈ xs := by
  rw [failures, List.mem_filterMap]
  constructor
  · rintro ⟨x, hx, h⟩
    split at h <;> cases h
    exact hx
  · exact fun h => ⟨_, h, rfl⟩

theorem successes_perm {xs ys : List (Except ε α)} (h : xs.Perm ys) : (successes xs).Perm (successes ys) :=
  h.filterMap _

theorem failures_perm {xs ys : List (Except ε α)} (h : xs.Perm ys) : (failures xs).Perm (failures ys) :=
  h.filterMap _

@[simp]
theorem mapError_ok {ε' : Type} (f : ε → ε') (x : α) : (Except.ok x).mapError f = .ok x := rfl

@[simp]
theorem mapError_error {ε' : Type} (f : ε → ε') (e : ε) : (Except.error e : Except ε α).mapError f = .error (f e) :=
  rfl

theorem map_eq_ok_iff {x : Except ε α} {f : α → β} {y : β} : x.map f = .ok y ↔ ∃ a, x = .ok a ∧ f a = y := by
  cases x <;> simp [Except.map]

theorem map_eq_error_iff {x : Except ε α} {f : α → β} {e : ε} : x.map f = .error e ↔ x = .error e := by
  cases x <;> simp [Except.map]

/-- For each input there is either something made of it or a skip, and both lists are in the order
of the inputs. -/
inductive Accounts (made : α → β → Prop) (skipped : α → Skip → Prop) :
    List α → List β → List Skip → Prop where
  | nil : Accounts made skipped [] [] []
  | made {x : α} {y : β} {xs : List α} {ys : List β} {ss : List Skip} :
    made x y → Accounts made skipped xs ys ss → Accounts made skipped (x :: xs) (y :: ys) ss
  | skipped {x : α} {s : Skip} {xs : List α} {ys : List β} {ss : List Skip} :
    skipped x s → Accounts made skipped xs ys ss → Accounts made skipped (x :: xs) ys (s :: ss)

/-- Attempts, each of which succeeds as `made` says or fails as `skipped` says. -/
theorem Accounts.of_outcomes {made : α → β → Prop} {skipped : α → Skip → Prop} (outcome : α → Except Skip β)
    (hmade : ∀ x y, outcome x = .ok y → made x y) (hskipped : ∀ x s, outcome x = .error s → skipped x s)
    (xs : List α) : Accounts made skipped xs (successes (xs.map outcome)) (failures (xs.map outcome)) := by
  induction xs with
  | nil => exact .nil
  | cons x xs ih =>
    cases hx : outcome x with
    | ok y =>
      rw [List.map_cons, hx]
      exact .made (hmade x y hx) ih
    | error s =>
      rw [List.map_cons, hx]
      exact .skipped (hskipped x s hx) ih

/-- Steps that do not end the run give one result each. -/
theorem mapM_eq_ok {f : α → Except ε β} {g : α → β} (h : ∀ x, f x = .ok (g x)) (xs : List α) :
    xs.mapM f = .ok (xs.map g) := by
  have hf : f = fun x => pure (g x) := funext h
  rw [hf, List.mapM_pure]
  rfl

/-! ## Attempts that a test decides -/

theorem successes_map_ite (p : α → Bool) (f : α → β) (g : α → ε) (xs : List α) :
    successes (xs.map fun x => if p x then .ok (f x) else .error (g x)) = (xs.filter p).map f := by
  induction xs with
  | nil => rfl
  | cons x xs ih =>
    cases hx : p x <;> simp [hx, ih]

theorem failures_map_ite (p : α → Bool) (f : α → β) (g : α → ε) (xs : List α) :
    failures (xs.map fun x => if p x then .ok (f x) else .error (g x)) =
      (xs.filter fun x => !p x).map g := by
  induction xs with
  | nil => rfl
  | cons x xs ih =>
    cases hx : p x <;> simp [hx, ih]

/-! ## Kinds of failures -/

section FailsIn

variable {p : ε → Prop}

/-- Every failure is as `p` says. -/
def FailsIn (p : ε → Prop) (x : Except ε α) : Prop := ∀ e, x = .error e → p e

theorem FailsIn.ok (a : α) : FailsIn p (.ok a) := nofun

theorem FailsIn.bind {x : Except ε α} {f : α → Except ε β} (hx : FailsIn p x) (hf : ∀ a, FailsIn p (f a)) :
    FailsIn p (x >>= f) := by
  intro e h
  cases hr : x with
  | error e' =>
    rw [hr] at h
    cases h
    exact hx e hr
  | ok a =>
    rw [hr] at h
    exact hf a e h

theorem FailsIn.map {x : Except ε α} {f : α → β} (hx : FailsIn p x) : FailsIn p (x.map f) := by
  intro e h
  cases hr : x with
  | error e' =>
    rw [hr] at h
    cases h
    exact hx e hr
  | ok a =>
    rw [hr] at h
    cases h

theorem FailsIn.mapM {f : α → Except ε β} (hf : ∀ a, FailsIn p (f a)) (xs : List α) : FailsIn p (xs.mapM f) := by
  induction xs with
  | nil => exact .ok _
  | cons x xs ih =>
    rw [List.mapM_cons]
    exact .bind (hf x) fun _ => .bind ih fun _ => .ok _

end FailsIn

/-- A step fails just where something is bad, and then as `p` says. -/
inductive FailsJust (bad : Prop) (p : ε → Prop) : Except ε α → Prop where
  | ok {x : α} : ¬ bad → FailsJust bad p (.ok x)
  | error {e : ε} : bad → p e → FailsJust bad p (.error e)

theorem FailsJust.of_ok {bad : Prop} {p : ε → Prop} {x : α} : FailsJust bad p (.ok x) → ¬ bad
  | .ok h => h

theorem FailsJust.of_error {bad : Prop} {p : ε → Prop} {e : ε} :
    FailsJust bad p (.error e : Except ε α) → bad ∧ p e
  | .error h he => ⟨h, he⟩

/-- Two steps fail just where either is bad, if what is bad for the second does not depend on the first. -/
theorem FailsJust.bind {bad bad' : Prop} {p : ε → Prop} {x : Except ε α} {f : α → Except ε β}
    (hx : FailsJust bad p x) (hf : ∀ a, FailsJust bad' p (f a)) : FailsJust (bad ∨ bad') p (x.bind f) := by
  cases hx with
  | error hbad hp => exact .error (.inl hbad) hp
  | ok hgood =>
    rw [or_iff_right hgood]
    exact hf _

/-- A run of steps fails just where one of its inputs is bad. -/
theorem FailsJust.foldlM {f : β → α → Except ε β} {bad : α → Prop} {p : ε → Prop}
    (hf : ∀ y x, FailsJust (bad x) p (f y x)) (xs : List α) (y : β) :
    FailsJust (∃ x ∈ xs, bad x) p (xs.foldlM f y) := by
  induction xs generalizing y with
  | nil => exact .ok (by simp)
  | cons x xs ih =>
    rw [List.foldlM_cons]
    have hx := hf y x
    generalize f y x = step at hx
    cases hx with
    | error hbad hp => exact .error ⟨x, List.mem_cons_self, hbad⟩ hp
    | ok hgood =>
      simp only [List.mem_cons, exists_eq_or_imp, hgood, false_or]
      exact ih _

end LuaStubs
