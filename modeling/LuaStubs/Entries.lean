/-!
# Entries in declaration order

Objects of an input document are read as lists of entries. `Entries.put` gives a
repeated key the last value at its first position, so a list built with it has
pairwise distinct keys in the order of their declaration.
-/

namespace LuaStubs

/-- Keys with their values, in the order of declaration. -/
abbrev Entries (α : Type) := List (String × α)

namespace Entries

/-- The list with `key` bound to `value`: at its old position, or else at the end. -/
def put {α : Type} (key : String) (value : α) : Entries α → Entries α
  | [] => [(key, value)]
  | (k, v) :: rest => if k = key then (k, value) :: rest else (k, v) :: put key value rest

/-- The value of a key. -/
def get? {α : Type} (key : String) (entries : Entries α) : Option α := entries.lookup key

/-- The keys in order. -/
def keys {α : Type} (entries : Entries α) : List String := entries.map Prod.fst

theorem keys_put {α : Type} (key : String) (value : α) (entries : Entries α) :
    (put key value entries).keys =
      if key ∈ entries.keys then entries.keys else entries.keys ++ [key] := by
  induction entries with
  | nil => simp [put, keys]
  | cons e rest ih =>
    obtain ⟨k, v⟩ := e
    simp only [keys] at ih ⊢
    by_cases h : k = key
    · simp [put, h]
    · by_cases hk : key ∈ List.map Prod.fst rest <;> simp [put, h, hk, ih, Ne.symm h]

/-- Adding an entry keeps the keys distinct. -/
theorem nodup_keys_put {α : Type} (key : String) (value : α) {entries : Entries α}
    (h : entries.keys.Nodup) : (put key value entries).keys.Nodup := by
  rw [keys_put]
  split
  · exact h
  · next hk =>
    refine List.nodup_append.2 ⟨h, by simp, fun a ha b hb e => hk ?_⟩
    rw [List.mem_singleton.1 hb] at e
    exact e ▸ ha

end Entries

end LuaStubs
