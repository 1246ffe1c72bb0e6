import Mathlib.Data.List.Induction
import LuaStubs.Entries

/-!
# Values of keys

What `Entries.get?` finds after `Entries.put` (`get?_put`), and what becomes of entries
that are put in. Entries with repeated keys are collected by putting them in one after
the other: a key keeps its first position (`keys_collect`) and gets its last value
(`get?_collect`).
-/

namespace LuaStubs.Entries

variable {α β : Type}

theorem get?_cons (key other : String) (value : α) (entries : Entries α) :
    get? other ((key, value) :: entries) = if other = key then some value else entries.get? other := by
  rw [get?, List.lookup_cons]
  by_cases h : other = key
  · rw [if_pos h, beq_iff_eq.2 h]
  · rw [if_neg h, beq_false_of_ne h, get?]

theorem get?_put (key other : String) (value : α) (entries : Entries α) :
    (entries.put key value).get? other = if other = key then some value else entries.get? other := by
  induction entries with
  | nil => rw [put, get?_cons]
  | cons e rest ih =>
    obtain ⟨k, v⟩ := e
    rw [put]
    split
    · next hk =>
      subst hk
      rw [get?_cons, get?_cons]
      split <;> rfl
    · next hk =>
      rw [get?_cons, get?_cons, ih]
      split
      · next hother => rw [if_neg (hother ▸ hk)]
      · rfl

/-- Values may be put in before or after they are changed. -/
theorem put_map (f : α → β) (key : String) (value : α) (entries : Entries α) :
    Entries.put key (f value) (entries.map fun e => (e.1, f e.2)) =
      (entries.put key value).map fun e => (e.1, f e.2) := by
  induction entries with
  | nil => rfl
  | cons e rest ih =>
    simp only [List.map_cons, put]
    split
    · rfl
    · rw [ih, List.map_cons]

/-- A new key is put at the end. -/
theorem put_of_not_mem {key : String} {value : α} {entries : Entries α} (h : key ∉ entries.keys) :
    entries.put key value = entries ++ [(key, value)] := by
  induction entries with
  | nil => rfl
  | cons e rest ih =>
    rw [keys, List.map_cons, List.mem_cons, not_or] at h
    rw [put, if_neg (Ne.symm h.1), ih h.2, List.cons_append]

theorem mem_keys_iff {key : String} {entries : Entries α} : key ∈ entries.keys ↔ ∃ value, (key, value) ∈ entries := by
  simp [keys]

/-- Where keys are distinct, each entry is the one that its key finds. -/
theorem get?_eq_some_iff {entries : Entries α} (h : entries.keys.Nodup) {key : String} {value : α} :
    entries.get? key = some value ↔ (key, value) ∈ entries := by
  induction entries with
  | nil => simp [get?]
  | cons e rest ih =>
    obtain ⟨k, v⟩ := e
    obtain ⟨hk, hrest⟩ := List.nodup_cons.1 h
    rw [get?_cons, List.mem_cons, Prod.mk.injEq]
    by_cases hkey : key = k
    · subst hkey
      have hnot : (key, value) ∉ rest := fun hmem => hk (List.mem_map.2 ⟨_, hmem, rfl⟩)
      simp [hnot, eq_comm]
    · simp [hkey, ih hrest]

/-- The order of entries with distinct keys is of no account. -/
theorem get?_perm {entries entries' : Entries α} (hperm : entries'.Perm entries) (h : entries.keys.Nodup)
    (key : String) : entries'.get? key = entries.get? key := by
  have h' : entries'.keys.Nodup := (hperm.map Prod.fst).nodup_iff.2 h
  ext value
  rw [get?_eq_some_iff h', get?_eq_some_iff h, hperm.mem_iff]

/-! ## Repeated keys -/

/-- The last value of a key. -/
def last? (key : String) (entries : Entries α) : Option α := get? key entries.reverse

theorem last?_append_singleton (key other : String) (value : α) (entries : Entries α) :
    last? other (entries ++ [(key, value)]) = if other = key then some value else entries.last? other := by
  rw [last?, List.reverse_append, List.reverse_singleton, List.singleton_append, get?_cons, last?]

/-- The entries put in one after the other. -/
def collect (entries : Entries α) : Entries α := entries.foldl (fun es e => es.put e.1 e.2) []

theorem collect_append_singleton (key : String) (value : α) (entries : Entries α) :
    collect (entries ++ [(key, value)]) = entries.collect.put key value := by
  rw [collect, List.foldl_append, collect]
  rfl

theorem get?_collect (key : String) (entries : Entries α) : entries.collect.get? key = entries.last? key := by
  induction entries using List.reverseRecOn with
  | nil => rfl
  | append_singleton entries e ih => rw [collect_append_singleton, get?_put, last?_append_singleton, ih]

theorem keys_collect (entries : Entries α) : entries.collect.keys = entries.keys.eraseDups := by
  induction entries using List.reverseRecOn with
  | nil => rfl
  | append_singleton entries e ih =>
    have hkeys : keys (entries ++ [e]) = keys entries ++ [e.1] := List.map_append
    rw [collect_append_singleton, keys_put, ih, hkeys, List.eraseDups_append]
    by_cases h : e.1 ∈ keys entries <;> simp [h, List.cons_removeAll, List.eraseDups_cons]

theorem nodup_keys_collect (entries : Entries α) : entries.collect.keys.Nodup := by
  induction entries using List.reverseRecOn with
  | nil => exact List.nodup_nil
  | append_singleton entries e ih =>
    rw [collect_append_singleton]
    exact nodup_keys_put e.1 e.2 ih

end LuaStubs.Entries
