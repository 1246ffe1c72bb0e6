import LuaStubs.Proofs.Api.Isolation
import LuaStubs.Proofs.Api.Shape
import LuaStubs.Proofs.Api.Written

/-!
# Definitions that are schemas

Which definitions of a document are accepted, and as what. `SortedByShape` says it of
the members that a text gives for its definitions: a name is accepted if its last
value has the shape of a schema, as the schema that the value describes, and else
rejected. Nothing but that value counts, so no definition depends on another one
(`ofText_sortedByShape`).
-/

namespace LuaStubs.Api.Document

open Json (ShapeFault Value)

/-! ## Accepted and rejected -/

/-- A definition as a schema, or what is wrong with it. -/
def asSchema (e : String × Value) : Except (String × ShapeFault) (String × Schema) :=
  match Schema.decode e.2 with
  | .ok s => .ok (e.1, s)
  | .error fault => .error (e.1, fault)

section Table

variable (declared : Entries Value)

theorem acceptedIn_eq_successes : acceptedIn declared = successes (declared.map asSchema) := by
  induction declared with
  | nil => rfl
  | cons e rest ih =>
    rw [acceptedIn, List.map_cons, asSchema, ih]
    cases Schema.decode e.2 <;> rfl

theorem rejectedIn_eq_failures : rejectedIn declared = failures (declared.map asSchema) := by
  induction declared with
  | nil => rfl
  | cons e rest ih =>
    rw [rejectedIn, List.map_cons, asSchema, ih]
    cases Schema.decode e.2 <;> rfl

theorem keys_perm : ((acceptedIn declared).keys ++ (rejectedIn declared).map Prod.fst).Perm declared.keys := by
  induction declared with
  | nil => exact .nil
  | cons e rest ih =>
    rw [acceptedIn, rejectedIn]
    cases Schema.decode e.2 with
    | ok s => exact ih.cons e.1
    | error fault => exact List.perm_middle.trans (ih.cons e.1)

theorem keys_acceptedIn_sublist : (acceptedIn declared).keys.Sublist declared.keys := by
  induction declared with
  | nil => exact .slnil
  | cons e rest ih =>
    rw [acceptedIn]
    cases Schema.decode e.2 with
    | ok s => exact ih.cons_cons e.1
    | error fault => exact ih.cons e.1

theorem names_rejectedIn_sublist : ((rejectedIn declared).map Prod.fst).Sublist declared.keys := by
  induction declared with
  | nil => exact .slnil
  | cons e rest ih =>
    rw [rejectedIn]
    cases Schema.decode e.2 with
    | ok s => exact ih.cons e.1
    | error fault => exact ih.cons_cons e.1

variable {declared}

theorem mem_acceptedIn_iff {name : String} {s : Schema} :
    (name, s) ∈ acceptedIn declared ↔ ∃ v, (name, v) ∈ declared ∧ Schema.decode v = .ok s := by
  rw [acceptedIn_eq_successes, mem_successes_iff, List.mem_map]
  constructor
  · rintro ⟨e, he, h⟩
    rw [asSchema] at h
    split at h <;> cases h
    exact ⟨e.2, he, ‹_›⟩
  · rintro ⟨v, hv, h⟩
    exact ⟨_, hv, by rw [asSchema, h]⟩

theorem mem_rejectedIn_iff {name : String} {fault : ShapeFault} :
    (name, fault) ∈ rejectedIn declared ↔ ∃ v, (name, v) ∈ declared ∧ Schema.decode v = .error fault := by
  rw [rejectedIn_eq_failures, mem_failures_iff, List.mem_map]
  constructor
  · rintro ⟨e, he, h⟩
    rw [asSchema] at h
    split at h <;> cases h
    exact ⟨e.2, he, ‹_›⟩
  · rintro ⟨v, hv, h⟩
    exact ⟨_, hv, by rw [asSchema, h]⟩

theorem mem_keys_acceptedIn_iff {name : String} :
    name ∈ (acceptedIn declared).keys ↔ ∃ v, (name, v) ∈ declared ∧ Shaped v := by
  simp only [Entries.mem_keys_iff, mem_acceptedIn_iff, ← Schema.exists_decode_eq_ok_iff]
  exact ⟨fun ⟨s, v, hv, hs⟩ => ⟨v, hv, s, hs⟩, fun ⟨v, hv, s, hs⟩ => ⟨s, v, hv, hs⟩⟩

theorem mem_names_rejectedIn_iff {name : String} :
    name ∈ (rejectedIn declared).map Prod.fst ↔ ∃ v, (name, v) ∈ declared ∧ ¬ Shaped v := by
  have hkeys : name ∈ (rejectedIn declared).map Prod.fst ↔ ∃ fault, (name, fault) ∈ rejectedIn declared :=
    Entries.mem_keys_iff
  simp only [hkeys, mem_rejectedIn_iff, ← Schema.exists_decode_eq_error_iff]
  exact ⟨fun ⟨fault, v, hv, h⟩ => ⟨v, hv, fault, h⟩, fun ⟨v, hv, fault, h⟩ => ⟨fault, v, hv, h⟩⟩

end Table

/-! ## Definitions of a text -/

/-- The definitions of a document are sorted by their shape. They are declared by `written`, where names may
be repeated: one counts at its first position, with its last value. -/
structure SortedByShape (written : Entries Value) (d : Document) : Prop where
  /-- Every declared name is accepted or rejected. -/
  names : (d.definitions.keys ++ d.rejected.map Prod.fst).Perm written.keys.eraseDups
  disjoint : d.definitions.keys.Disjoint (d.rejected.map Prod.fst)
  accepted_in_order : d.definitions.keys.Sublist written.keys.eraseDups
  rejected_in_order : (d.rejected.map Prod.fst).Sublist written.keys.eraseDups
  accepted_iff : ∀ name, name ∈ d.definitions.keys ↔ ∃ v, written.last? name = some v ∧ Shaped v
  rejected_iff : ∀ name, name ∈ d.rejected.map Prod.fst ↔ ∃ v, written.last? name = some v ∧ ¬ Shaped v
  /-- An accepted schema is the one that the value describes. -/
  schema_iff : ∀ name s, d.definition? name = some s ↔ ∃ v, written.last? name = some v ∧ Shaped v ∧ Describes v s

theorem sortedByShape (o : Outline) : SortedByShape o.definitions (ofOutline o.collected) := by
  let declared := o.definitions.collect
  have hkeys : declared.keys = o.definitions.keys.eraseDups := Entries.keys_collect _
  have hnodup : declared.keys.Nodup := Entries.nodup_keys_collect _
  have haccepted : (acceptedIn declared).keys.Nodup := hnodup.sublist (keys_acceptedIn_sublist declared)
  have hlast : ∀ name v, (name, v) ∈ declared ↔ o.definitions.last? name = some v := by
    intro name v
    rw [← Entries.get?_eq_some_iff hnodup, Entries.get?_collect]
  constructor
  case names => exact hkeys ▸ keys_perm declared
  case disjoint =>
    intro name haccepts hrejects
    have hboth := (keys_perm declared).nodup_iff.2 hnodup
    exact (List.nodup_append.1 hboth).2.2 name haccepts name hrejects rfl
  case accepted_in_order => exact hkeys ▸ keys_acceptedIn_sublist declared
  case rejected_in_order => exact hkeys ▸ names_rejectedIn_sublist declared
  case accepted_iff =>
    intro name
    simp only [← hlast]
    exact mem_keys_acceptedIn_iff
  case rejected_iff =>
    intro name
    simp only [← hlast]
    exact mem_names_rejectedIn_iff
  case schema_iff =>
    intro name s
    simp only [← hlast, ← Schema.decode_eq_ok_iff]
    exact (Entries.get?_eq_some_iff haccepted).trans mem_acceptedIn_iff

theorem exists_sortedByShape {text : String} {d : Document} (h : ofText text = .ok d) :
    ∃ written, Outline.writtenOfText text = .ok written ∧ SortedByShape written.definitions d := by
  obtain ⟨o, ho, rfl⟩ := map_eq_ok_iff.1 h
  obtain ⟨written, hwritten, rfl⟩ := Outline.ofText_eq_ok_iff.1 ho
  exact ⟨written, hwritten, sortedByShape written⟩

/-- The definitions that a text declares are sorted by their shape, each by its own value: whatever another
text declares besides, a name with the same value is accepted or not as here. -/
theorem ofText_sortedByShape {text : String} {d : Document} (h : ofText text = .ok d) :
    ∃ written, Outline.writtenOfText text = .ok written ∧ SortedByShape written.definitions d ∧
      ∀ text' d' written', ofText text' = .ok d' → Outline.writtenOfText text' = .ok written' →
        ∀ name, written'.definitions.last? name = written.definitions.last? name →
          (name ∈ d'.definitions.keys ↔ name ∈ d.definitions.keys) := by
  obtain ⟨written, hwritten, hd⟩ := exists_sortedByShape h
  refine ⟨written, hwritten, hd, fun text' d' written' h' hwritten' name hlast => ?_⟩
  obtain ⟨_, hwritten'', hd'⟩ := exists_sortedByShape h'
  cases hwritten'.symm.trans hwritten''
  rw [hd.accepted_iff, hd'.accepted_iff, hlast]

/-- A text with a repeated name, whose last value is the array form of a schema, and a name without a schema. -/
def repeatedText : String := "\x7b\"definitions\":\x7b\"a\":1,\"b\":\x7b\"items\":2\x7d,\"a\":[\"r\"]\x7d\x7d"

theorem sortedByShape_repeatedText :
    ∃ d, ofText repeatedText = .ok d ∧ d.definitions.keys = ["a"] ∧ d.rejected.map Prod.fst = ["b"] ∧
      ∃ written, Outline.writtenOfText repeatedText = .ok written ∧ written.definitions.keys = ["a", "b", "a"] ∧
        SortedByShape written.definitions d := by
  have hwritten : Outline.writtenOfText repeatedText = .ok { definitions := [
      ("a", .number (.int 1)), ("b", .object [("items", .number (.int 2))]), ("a", .array [.string "r"])] } := by
    decide +kernel
  have hd : ofText repeatedText = .ok _ := map_eq_ok_iff.2 ⟨_, Outline.ofText_eq_ok_iff.2 ⟨_, hwritten, rfl⟩, rfl⟩
  obtain ⟨written, hwritten', hsorted, -⟩ := ofText_sortedByShape hd
  cases hwritten.symm.trans hwritten'
  exact ⟨_, hd, by decide +kernel, by decide +kernel, _, hwritten, rfl, hsorted⟩

end LuaStubs.Api.Document
