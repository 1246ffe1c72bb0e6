import LuaStubs.Json.Value

/-!
# Equality of JSON values

Equality of values is decided by going through both at once. No deriving handler
covers a type that is nested in lists of itself.
-/

namespace LuaStubs.Json.Value

mutual

/-- Whether two values are the same. -/
def same : Value → Value → Bool
  | .null, .null => true
  | .bool a, .bool b => a == b
  | .number m, .number n => m == n
  | .string s, .string t => s == t
  | .array xs, .array ys => sameItems xs ys
  | .object xs, .object ys => sameMembers xs ys
  | _, _ => false

/-- Whether two arrays have the same items. -/
def sameItems : List Value → List Value → Bool
  | [], [] => true
  | v :: vs, w :: ws => same v w && sameItems vs ws
  | _, _ => false

/-- Whether two objects have the same members, in the same order. -/
def sameMembers : List (String × Value) → List (String × Value) → Bool
  | [], [] => true
  | (k, v) :: xs, (l, w) :: ys => k == l && same v w && sameMembers xs ys
  | _, _ => false

end

mutual

theorem same_self : ∀ v : Value, same v v = true
  | .null => rfl
  | .bool b => by simp [same]
  | .number n => by simp [same]
  | .string s => by simp [same]
  | .array xs => by rw [same, sameItems_self xs]
  | .object xs => by rw [same, sameMembers_self xs]

theorem sameItems_self : ∀ xs : List Value, sameItems xs xs = true
  | [] => rfl
  | v :: vs => by rw [sameItems, same_self v, sameItems_self vs]; rfl

theorem sameMembers_self : ∀ xs : List (String × Value), sameMembers xs xs = true
  | [] => rfl
  | (k, v) :: xs => by rw [sameMembers, same_self v, sameMembers_self xs]; simp

end

mutual

theorem eq_of_same : ∀ {v w : Value}, same v w = true → v = w
  | .null, w, h => by cases w <;> simp [same] at h ⊢
  | .bool b, w, h => by cases w <;> simp [same] at h ⊢; exact h
  | .number n, w, h => by cases w <;> simp [same] at h ⊢; exact h
  | .string s, w, h => by cases w <;> simp [same] at h ⊢; exact h
  | .array xs, w, h => by cases w <;> simp [same] at h ⊢; exact eq_of_sameItems h
  | .object xs, w, h => by cases w <;> simp [same] at h ⊢; exact eq_of_sameMembers h

theorem eq_of_sameItems : ∀ {xs ys : List Value}, sameItems xs ys = true → xs = ys
  | [], [], _ => rfl
  | v :: vs, w :: ws, h => by
    rw [sameItems, Bool.and_eq_true] at h
    rw [eq_of_same h.1, eq_of_sameItems h.2]

theorem eq_of_sameMembers : ∀ {xs ys : List (String × Value)}, sameMembers xs ys = true → xs = ys
  | [], [], _ => rfl
  | (k, v) :: xs, (l, w) :: ys, h => by
    rw [sameMembers, Bool.and_eq_true, Bool.and_eq_true, beq_iff_eq] at h
    rw [h.1.1, eq_of_same h.1.2, eq_of_sameMembers h.2]

end

theorem same_iff {v w : Value} : same v w = true ↔ v = w :=
  ⟨eq_of_same, fun h => h ▸ same_self v⟩

instance : DecidableEq Value := fun _ _ => decidable_of_iff _ same_iff

end LuaStubs.Json.Value
