import LuaStubs.Toml.Value

/-!
# Equality of TOML values

Equality of values is decided by going through both at once, as it is for JSON
values.
-/

namespace LuaStubs.Toml.Value

mutual

/-- Whether two values are the same. -/
def same : Value → Value → Bool
  | .text s, .text t => s == t
  | .boolean a, .boolean b => a == b
  | .number m, .number n => m == n
  | .moment m, .moment n => m == n
  | .array xs, .array ys => sameItems xs ys
  | .table xs, .table ys => sameEntries xs ys
  | _, _ => false

/-- Whether two arrays have the same items. -/
def sameItems : List Value → List Value → Bool
  | [], [] => true
  | v :: vs, w :: ws => same v w && sameItems vs ws
  | _, _ => false

/-- Whether two tables have the same entries, in the same order. -/
def sameEntries : List (String × Value) → List (String × Value) → Bool
  | [], [] => true
  | (k, v) :: xs, (l, w) :: ys => k == l && same v w && sameEntries xs ys
  | _, _ => false

end

mutual

theorem same_self : ∀ v : Value, same v v = true
  | .text s => by simp [same]
  | .boolean b => by simp [same]
  | .number n => by simp [same]
  | .moment m => by simp [same]
  | .array xs => by rw [same, sameItems_self xs]
  | .table xs => by rw [same, sameEntries_self xs]

theorem sameItems_self : ∀ xs : List Value, sameItems xs xs = true
  | [] => rfl
  | v :: vs => by rw [sameItems, same_self v, sameItems_self vs]; rfl

theorem sameEntries_self : ∀ xs : List (String × Value), sameEntries xs xs = true
  | [] => rfl
  | (k, v) :: xs => by rw [sameEntries, same_self v, sameEntries_self xs]; simp

end

mutual

theorem eq_of_same : ∀ {v w : Value}, same v w = true → v = w
  | .text s, w, h => by cases w <;> simp [same] at h ⊢; exact h
  | .boolean b, w, h => by cases w <;> simp [same] at h ⊢; exact h
  | .number n, w, h => by cases w <;> simp [same] at h ⊢; exact h
  | .moment m, w, h => by cases w <;> simp [same] at h ⊢; exact h
  | .array xs, w, h => by cases w <;> simp [same] at h ⊢; exact eq_of_sameItems h
  | .table xs, w, h => by cases w <;> simp [same] at h ⊢; exact eq_of_sameEntries h

theorem eq_of_sameItems : ∀ {xs ys : List Value}, sameItems xs ys = true → xs = ys
  | [], [], _ => rfl
  | v :: vs, w :: ws, h => by
    rw [sameItems, Bool.and_eq_true] at h
    rw [eq_of_same h.1, eq_of_sameItems h.2]

theorem eq_of_sameEntries : ∀ {xs ys : List (String × Value)}, sameEntries xs ys = true → xs = ys
  | [], [], _ => rfl
  | (k, v) :: xs, (l, w) :: ys, h => by
    rw [sameEntries, Bool.and_eq_true, Bool.and_eq_true, beq_iff_eq] at h
    rw [h.1.1, eq_of_same h.1.2, eq_of_sameEntries h.2]

end

theorem same_iff {v w : Value} : same v w = true ↔ v = w :=
  ⟨eq_of_same, fun h => h ▸ same_self v⟩

instance : DecidableEq Value := fun _ _ => decidable_of_iff _ same_iff

end LuaStubs.Toml.Value
