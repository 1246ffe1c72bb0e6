import Mathlib.Data.List.Forall2
import LuaStubs.Toml.Decode

/-!
# What is read of a table

A table is a record if it has only the keys of the record (`HasOnly`). Under a key
that may be missing it then holds a default (`Holds`), so whether the key can be
read is up to what is written there (`exists_optional?_iff`).
-/

namespace LuaStubs.Toml

variable {α : Type} {key : String} {keys : List String} {default x : α} {decode : Value → Option α}
  {table : Entries Value}

/-- A table has only these keys. -/
def HasOnly (keys : List String) (table : Entries Value) : Prop := ∀ key ∈ table.keys, key ∈ keys

instance : Decidable (HasOnly keys table) := inferInstanceAs (Decidable (∀ key ∈ table.keys, key ∈ keys))

theorem fields?_table_eq_some_iff {fields : Entries Value} :
    fields? keys (.table table) = some fields ↔ HasOnly keys table ∧ fields = table := by
  have hall : (table.all fun e => e.1 ∈ keys) = true ↔ HasOnly keys table := by
    simp [HasOnly, Entries.keys]
  rw [fields?, Option.ite_none_right_eq_some, hall, Option.some.injEq, eq_comm (a := table)]

/-- A record is a table or an array. -/
def IsRecord (v : Value) : Prop := (∃ table, v = .table table) ∨ ∃ items, v = .array items

theorem isRecord_of_fields?_bind {v : Value} {f : Entries Value → Option α} (h : (fields? keys v).bind f = some x) :
    IsRecord v := by
  obtain ⟨fields, hfields, -⟩ := Option.bind_eq_some_iff.1 h
  cases v with
  | table table => exact .inl ⟨table, rfl⟩
  | array items => exact .inr ⟨items, rfl⟩
  | _ => cases hfields

/-! ## Keys that may be missing -/

/-- What a table holds under a key: what is written there in some form, or `default` where the key is missing. -/
def Holds (key : String) (default : α) (form : Value → α → Prop) (table : Entries Value) (x : α) : Prop :=
  (table.get? key).elim (x = default) fun v => form v x

theorem holds_of_optional? {form : Value → α → Prop} (h : optional? key default decode table = some x)
    (hform : ∀ v, table.get? key = some v → decode v = some x → form v x) : Holds key default form table x := by
  cases hv : table.get? key with
  | some v =>
    rw [Holds, hv]
    rw [optional?, hv] at h
    exact hform v hv h
  | none =>
    rw [Holds, hv]
    rw [optional?, hv] at h
    exact (Option.some.inj h).symm

/-- A key is read, and as something that will do, if what is written there is. -/
theorem exists_optional?_iff {P : α → Prop} (hdefault : P default) :
    (∃ x, optional? key default decode table = some x ∧ P x) ↔
      ∀ v, table.get? key = some v → ∃ x, decode v = some x ∧ P x := by
  cases h : table.get? key with
  | some v => simp [optional?, h]
  | none => simp [optional?, h, hdefault]

theorem exists_optional?_eq_some_iff : (∃ x, optional? key default decode table = some x) ↔
    ∀ v, table.get? key = some v → ∃ x, decode v = some x := by
  simpa using exists_optional?_iff (P := fun _ => True) trivial

/-! ## Lists -/

theorem mapM_eq_some_iff {items : List Value} {xs : List α} :
    items.mapM decode = some xs ↔ List.Forall₂ (fun v x => decode v = some x) items xs := by
  induction items generalizing xs with
  | nil => simp [eq_comm]
  | cons v items ih =>
    simp only [List.mapM_cons, bind, pure, Option.bind_eq_some_iff, Option.some.injEq, ih]
    constructor
    · rintro ⟨x, hx, xs, hxs, rfl⟩
      exact .cons hx hxs
    · intro h
      cases h with
      | cons hx hxs => exact ⟨_, hx, _, hxs, rfl⟩

namespace Value

theorem text?_eq_some_iff {v : Value} {s : String} : v.text? = some s ↔ v = .text s := by
  cases v <;> simp [text?]

theorem boolean?_eq_some_iff {v : Value} {b : Bool} : v.boolean? = some b ↔ v = .boolean b := by
  cases v <;> simp [boolean?]

theorem list?_eq_some_iff {v : Value} {xs : List α} :
    v.list? decode = some xs ↔ ∃ items, v = .array items ∧ List.Forall₂ (fun v x => decode v = some x) items xs := by
  cases v <;> simp [list?, mapM_eq_some_iff]

theorem list?_text?_eq_some_iff {v : Value} {ss : List String} :
    v.list? text? = some ss ↔ v = .array (ss.map .text) := by
  have htexts (items : List Value) : List.Forall₂ (fun v s => v = .text s) items ss ↔ items = ss.map .text := by
    rw [← List.forall₂_map_right_iff (R := Eq), List.forall₂_eq_eq_eq]
  simp only [list?_eq_some_iff, text?_eq_some_iff, htexts]
  simp

end Value

end LuaStubs.Toml
