import Mathlib.Logic.Function.Basic
import LuaStubs.Api.Schema
import LuaStubs.Proofs.Attempt
import LuaStubs.Proofs.Entries
import LuaStubs.Proofs.Json.Agreement

/-!
# The shape of a schema

Which values are read as schemas (`Shaped`), and what each part of the schema is
(`Describes`). Both say it of the value alone, through all of its levels.
`Schema.decode` reads a value exactly if it is shaped, and as the one schema that
the value describes (`decode_eq_ok_iff`).
-/

namespace LuaStubs.Json

/-! ## Values and their parts -/

/-- The values directly inside a value. -/
def Value.children : Value → List Value
  | .array items => items
  | .object members => members.map Prod.snd
  | _ => []

theorem Value.sizeOf_lt_of_mem_children {v w : Value} (h : w ∈ v.children) : sizeOf w < sizeOf v := by
  cases v with
  | array items =>
    have hlt : sizeOf w < sizeOf items := List.sizeOf_lt_of_mem h
    rw [Value.array.sizeOf_spec]
    omega
  | object members =>
    obtain ⟨⟨key, w⟩, hmem, rfl⟩ := List.mem_map.1 h
    have hlt := List.sizeOf_lt_of_mem hmem
    rw [Prod.mk.sizeOf_spec] at hlt
    rw [Value.object.sizeOf_spec]
    dsimp only
    omega
  | _ => cases h

/-- What holds of a value whenever it holds of the values directly inside it, holds of all values. -/
theorem Value.children_induction {P : Value → Prop} (step : ∀ v : Value, (∀ w ∈ v.children, P w) → P v) (v : Value) :
    P v :=
  step v fun w _ => Value.children_induction step w
termination_by sizeOf v
decreasing_by exact Value.sizeOf_lt_of_mem_children ‹_›

namespace Decoder

theorem optional_text_eq_ok {v : Value} {t : Option String} : optional text v = .ok t ↔ v = .ofString? t := by
  cases v <;> cases t <;> simp [optional, text, Value.ofString?, map_eq_ok_iff]

theorem mapM_text_eq_ok {items : List Value} {ts : List String} :
    items.mapM text = .ok ts ↔ items = ts.map .string := by
  induction items generalizing ts with
  | nil => cases ts <;> simp [pure, Except.pure]
  | cons v items ih =>
    simp only [List.mapM_cons, bind_eq_ok, ih]
    constructor
    · rintro ⟨t, ht, ts', rfl, h⟩
      cases h
      cases v <;> cases ht
      rfl
    · intro h
      cases ts with
      | nil => cases h
      | cons t ts =>
        cases h
        exact ⟨t, rfl, ts, rfl, rfl⟩

theorem list_text_eq_ok {v : Value} {ts : List String} : list text v = .ok ts ↔ v = .ofStrings ts := by
  cases v <;> simp [list, Value.ofStrings, mapM_text_eq_ok]

theorem list_ok_eq_ok {v : Value} {vs : List Value} : list .ok v = .ok vs ↔ v = .array vs := by
  have hmapM : ∀ items : List Value, items.mapM (m := Except ShapeFault) .ok = .ok items := by
    intro items
    simpa using mapM_eq_ok (f := Except.ok (ε := ShapeFault)) (g := id) (fun _ => rfl) items
  cases v <;> simp [list, hmapM]

end Decoder

theorem Value.ofString?_inj {t t' : Option String} (h : ofString? t = ofString? t') : t = t' := by
  cases t <;> cases t' <;> cases h <;> rfl

theorem Value.ofStrings_inj {ts ts' : List String} (h : ofStrings ts = ofStrings ts') : ts = ts' := by
  have hts := Decoder.list_text_eq_ok.2 h
  rw [Decoder.list_text_eq_ok.2 rfl] at hts
  exact Except.ok.inj hts

end LuaStubs.Json

namespace LuaStubs.Api

open Json (Value bind_eq_ok)

/-! ## Shapes -/

mutual

/-- A value has the shape of a schema: it is an object, or it is an array of at most eight values, which stand
for the keys of a schema in their order. -/
inductive Shaped : Value → Prop
  | object {members : Entries Value} (h : ∀ key v, (key, v) ∈ members → KeyShaped key v) : Shaped (.object members)
  | array {items : List Value} (short : items.length ≤ 8)
      (h : ∀ key v, (key, v) ∈ Schema.keys.zip items → KeyShaped key v) : Shaped (.array items)

/-- A value has the shape that is wanted under a key: any shape if the key is none of a schema. -/
inductive KeyShaped : String → Value → Prop
  /-- A string or null. -/
  | text {key : String} (h : key ∈ ["$ref", "type", "title", "description"]) (t : Option String) :
      KeyShaped key (.ofString? t)
  | properties {members : Entries Value} (h : ∀ key v, (key, v) ∈ members → Shaped v) :
      KeyShaped "properties" (.object members)
  | items {v : Value} (h : Shaped v) : KeyShaped "items" v
  | noItems : KeyShaped "items" .null
  | enumeration (vs : List Value) : KeyShaped "enum" (.array vs)
  | required (names : List String) : KeyShaped "required" (.ofStrings names)
  | other {key : String} (h : key ∉ Schema.keys) (v : Value) : KeyShaped key v

end

mutual

/-- A value describes a schema. The last value of a key counts. -/
inductive Describes : Value → Schema → Prop
  | object {members : Entries Value} {s : Schema} (h : DescribedBy (fun key => members.last? key) s) :
      Describes (.object members) s
  | array {items : List Value} {s : Schema}
      (h : DescribedBy (fun key => Entries.last? key (Schema.keys.zip items)) s) : Describes (.array items) s

/-- The parts of a schema are what values are given for them. A part without a value is null or empty. -/
inductive DescribedBy : (String → Option Value) → Schema → Prop
  | mk {given : String → Option Value} {s : Schema}
      (reference : (given "$ref").getD .null = .ofString? s.reference)
      (kind : (given "type").getD .null = .ofString? s.kind)
      (title : (given "title").getD .null = .ofString? s.title)
      (description : (given "description").getD .null = .ofString? s.description)
      (properties : DescribesProperties ((given "properties").getD (.object [])) s.properties)
      (items : DescribesItems ((given "items").getD .null) s.items)
      (enumeration : (given "enum").getD (.array []) = .array s.enumeration)
      (required : (given "required").getD (.array []) = .ofStrings s.required) : DescribedBy given s

/-- An object describes properties: each of its members describes one, in order. -/
inductive DescribesProperties : Value → Entries Schema → Prop
  | nil : DescribesProperties (.object []) []
  | cons {key : String} {v : Value} {members : Entries Value} {s : Schema} {properties : Entries Schema}
      (head : Describes v s) (tail : DescribesProperties (.object members) properties) :
      DescribesProperties (.object ((key, v) :: members)) ((key, s) :: properties)

/-- A value describes the schema of items, and null that there is none. -/
inductive DescribesItems : Value → Option Schema → Prop
  | none : DescribesItems .null none
  | some {v : Value} {s : Schema} (h : Describes v s) : DescribesItems v (some s)

end

namespace Schema

/-! ## Reading the value of a key -/

theorem mem_keys {key : String} : key ∈ keys ↔
    key = "$ref" ∨ key = "type" ∨ key = "title" ∨ key = "description" ∨ key = "properties" ∨ key = "items" ∨
      key = "enum" ∨ key = "required" := by
  simp [keys]

theorem decodeOptional_eq_ok {v : Value} {o : Option Schema} :
    decodeOptional v = .ok o ↔ v = .null ∧ o = none ∨ ∃ s, decode v = .ok s ∧ o = some s := by
  cases v with
  | null => simp [decodeOptional, decode, eq_comm]
  | array items =>
    simp only [decodeOptional, decode, bind_eq_ok]
    grind
  | object members =>
    simp only [decodeOptional, decode, map_eq_ok_iff]
    grind
  | _ => simp [decodeOptional, decode]

/-- What is to be shown of a value, as a schema and as the properties of one. -/
structure Decodes (v : Value) : Prop where
  shaped : (∃ s, decode v = .ok s) ↔ Shaped v
  describes : ∀ s, decode v = .ok s → Describes v s
  shaped_entries : (∃ es, decodeEntries v = .ok es) ↔
    ∃ members, v = .object members ∧ ∀ key w, (key, w) ∈ members → Shaped w
  describes_entries : ∀ es, decodeEntries v = .ok es → DescribesProperties v es

theorem Decodes.describesItems {v : Value} (hv : Decodes v) {o : Option Schema} (h : decodeOptional v = .ok o) :
    DescribesItems v o := by
  obtain ⟨rfl, rfl⟩ | ⟨s, hs, rfl⟩ := decodeOptional_eq_ok.1 h
  · exact .none
  · exact .some (hv.describes s hs)

section Take

variable {key : String} {v : Value}

theorem take_of_not_mem (hkey : key ∉ keys) (nested : Unit → Except Json.ShapeFault (Option Schema))
    (nestedEntries : Unit → Except Json.ShapeFault (Entries Schema)) (s : Schema) :
    take key v nested nestedEntries s = .ok s := by
  unfold take
  split
  case h_9 => rfl
  all_goals exact absurd (by decide) hkey

-- Here and below the cases are those of take: four texts, then the parts from the properties on.
theorem keyShaped_of_take (hv : Decodes v) {s s' : Schema}
    (h : take key v (fun _ => decodeOptional v) (fun _ => decodeEntries v) s = .ok s') : KeyShaped key v := by
  unfold take at h
  split at h
  case h_9 hreference hkind htitle hdescription hproperties hitems henumeration hrequired =>
    exact .other (by grind [mem_keys]) v
  all_goals obtain ⟨t, ht, -⟩ := bind_eq_ok.1 h
  case h_5 =>
    obtain ⟨members, rfl, hmembers⟩ := hv.shaped_entries.1 ⟨t, ht⟩
    exact .properties hmembers
  case h_6 =>
    obtain ⟨rfl, rfl⟩ | ⟨s, hs, rfl⟩ := decodeOptional_eq_ok.1 ht
    · exact .noItems
    · exact .items (hv.shaped.1 ⟨s, hs⟩)
  case h_7 =>
    rw [Json.Decoder.list_ok_eq_ok.1 ht]
    exact .enumeration t
  case h_8 =>
    rw [Json.Decoder.list_text_eq_ok.1 ht]
    exact .required t
  all_goals
    rw [Json.Decoder.optional_text_eq_ok.1 ht]
    exact .text (by simp) t

/-- A value that is taken in under a key describes the part for the key, and the other parts stay. -/
theorem take_described (hv : Decodes v) {given : String → Option Value} {s s' : Schema} (hs : DescribedBy given s)
    (h : take key v (fun _ => decodeOptional v) (fun _ => decodeEntries v) s = .ok s') :
    DescribedBy (Function.update given key (some v)) s' := by
  obtain ⟨reference, kind, title, description, properties, items, enumeration, required⟩ := hs
  unfold take at h
  split at h
  case h_9 hreference hkind htitle hdescription hproperties hitems henumeration hrequired =>
    cases h
    have hothers : ∀ other ∈ keys, Function.update given key (some v) other = given other := by
      intro other hother
      exact Function.update_of_ne (by grind [mem_keys]) _ _
    constructor <;> rw [hothers _ (by decide)] <;> assumption
  all_goals
    obtain ⟨t, ht, h⟩ := bind_eq_ok.1 h
    cases h
  case h_5 =>
    have hproperties := hv.describes_entries t ht
    constructor <;> simpa
  case h_6 =>
    have hitems := hv.describesItems ht
    constructor <;> simpa
  case h_7 =>
    have henumeration := Json.Decoder.list_ok_eq_ok.1 ht
    constructor <;> simpa
  case h_8 =>
    have hrequired := Json.Decoder.list_text_eq_ok.1 ht
    constructor <;> simpa
  all_goals
    have htext := Json.Decoder.optional_text_eq_ok.1 ht
    constructor <;> simpa

/-- A value is taken in under a key if it has the shape for the key, whatever has been taken in before. -/
theorem take_shaped (key : String) (hv : Decodes v) (s : Schema) :
    (∃ s', take key v (fun _ => decodeOptional v) (fun _ => decodeEntries v) s = .ok s') ↔ KeyShaped key v := by
  refine ⟨fun ⟨s', h⟩ => keyShaped_of_take hv h, fun h => ?_⟩
  cases h with
  | text hkey t =>
    have htext := Json.Decoder.optional_text_eq_ok.2 (rfl : Value.ofString? t = .ofString? t)
    simp only [List.mem_cons, List.not_mem_nil, or_false] at hkey
    obtain rfl | rfl | rfl | rfl := hkey <;> exact ⟨_, bind_eq_ok.2 ⟨t, htext, rfl⟩⟩
  | properties hmembers =>
    obtain ⟨es, hes⟩ := hv.shaped_entries.2 ⟨_, rfl, hmembers⟩
    exact ⟨_, bind_eq_ok.2 ⟨es, hes, rfl⟩⟩
  | items hshaped =>
    obtain ⟨t, ht⟩ := hv.shaped.2 hshaped
    exact ⟨_, bind_eq_ok.2 ⟨some t, decodeOptional_eq_ok.2 (.inr ⟨t, ht, rfl⟩), rfl⟩⟩
  | noItems => exact ⟨_, bind_eq_ok.2 ⟨none, decodeOptional_eq_ok.2 (.inl ⟨rfl, rfl⟩), rfl⟩⟩
  | enumeration vs => exact ⟨_, bind_eq_ok.2 ⟨vs, Json.Decoder.list_ok_eq_ok.2 rfl, rfl⟩⟩
  | required names => exact ⟨_, bind_eq_ok.2 ⟨names, Json.Decoder.list_text_eq_ok.2 rfl, rfl⟩⟩
  | other hkey v => exact ⟨s, take_of_not_mem hkey _ _ s⟩

end Take

/-! ## Reading all of them -/

theorem decodeMembers_shaped {members : Entries Value} (hmembers : ∀ e ∈ members, Decodes e.2) (s : Schema) :
    (∃ s', decodeMembers members s = .ok s') ↔ ∀ key v, (key, v) ∈ members → KeyShaped key v := by
  induction members generalizing s with
  | nil => simp [decodeMembers]
  | cons e members ih =>
    obtain ⟨key, v⟩ := e
    have htake := take_shaped key (hmembers (key, v) List.mem_cons_self)
    have hrest := ih fun e h => hmembers e (List.mem_cons_of_mem _ h)
    constructor
    · rintro ⟨s', h⟩ key' v' hmem
      obtain ⟨s₁, hs₁, h⟩ := bind_eq_ok.1 h
      rcases List.mem_cons.1 hmem with heq | hmem
      · cases heq
        exact (htake s).1 ⟨s₁, hs₁⟩
      · exact (hrest s₁).1 ⟨s', h⟩ key' v' hmem
    · intro h
      obtain ⟨s₁, hs₁⟩ := (htake s).2 (h key v List.mem_cons_self)
      obtain ⟨s', hs'⟩ := (hrest s₁).2 fun key v hmem => h key v (List.mem_cons_of_mem _ hmem)
      exact ⟨s', bind_eq_ok.2 ⟨s₁, hs₁, hs'⟩⟩

/-- The members that have been taken in describe the schema, so all of them do in the end. -/
theorem decodeMembers_described {members : Entries Value} (hmembers : ∀ e ∈ members, Decodes e.2)
    {before : Entries Value} {s s' : Schema} (hs : DescribedBy (fun key => before.last? key) s)
    (h : decodeMembers members s = .ok s') : DescribedBy (fun key => Entries.last? key (before ++ members)) s' := by
  induction members generalizing before s with
  | nil =>
    cases h
    rwa [List.append_nil]
  | cons e members ih =>
    obtain ⟨key, v⟩ := e
    obtain ⟨s₁, hs₁, h⟩ := bind_eq_ok.1 h
    have hdescribed := take_described (hmembers (key, v) List.mem_cons_self) hs hs₁
    have hlast : (fun other => Entries.last? other (before ++ [(key, v)])) =
        Function.update (fun other => before.last? other) key (some v) := by
      funext other
      rw [Entries.last?_append_singleton, Function.update_apply]
    rw [← hlast] at hdescribed
    rw [List.append_cons]
    exact ih (fun e h => hmembers e (List.mem_cons_of_mem _ h)) hdescribed h

/-- Nothing is given for any part of the schema at first. -/
theorem describedBy_default : DescribedBy (fun key => Entries.last? key []) {} := by
  constructor <;> first | rfl | exact .nil | exact .none

/-- Items are taken in as members under the keys of a schema. -/
theorem decodeItems_eq (items : List Value) (ks : List String) (s : Schema) :
    decodeItems items ks s = decodeMembers (ks.zip items) s := by
  induction items generalizing ks s with
  | nil => simp [decodeItems, decodeMembers]
  | cons v items ih =>
    cases ks with
    | nil => simp [decodeItems, decodeMembers]
    | cons key ks => simp only [decodeItems, List.zip_cons_cons, decodeMembers, ih]

theorem decode_array_eq_ok {items : List Value} {s : Schema} :
    decode (.array items) = .ok s ↔ items.length ≤ 8 ∧ decodeMembers (keys.zip items) {} = .ok s := by
  rw [decode, bind_eq_ok, decodeItems_eq]
  constructor
  · rintro ⟨s', hs', h⟩
    split at h
    · next hshort =>
      cases h
      exact ⟨hshort, hs'⟩
    · cases h
  · rintro ⟨hshort, hs⟩
    exact ⟨s, hs, if_pos hshort⟩

theorem decodeAll_shaped {members : Entries Value} (hmembers : ∀ e ∈ members, Decodes e.2) :
    (∃ es, decodeAll members = .ok es) ↔ ∀ key v, (key, v) ∈ members → Shaped v := by
  induction members with
  | nil => simp [decodeAll]
  | cons e members ih =>
    obtain ⟨key, v⟩ := e
    have hv := hmembers (key, v) List.mem_cons_self
    have hrest := ih fun e h => hmembers e (List.mem_cons_of_mem _ h)
    constructor
    · rintro ⟨es, h⟩ key' v' hmem
      obtain ⟨s, hs, h⟩ := bind_eq_ok.1 h
      obtain ⟨es', hes', -⟩ := bind_eq_ok.1 h
      rcases List.mem_cons.1 hmem with heq | hmem
      · cases heq
        exact hv.shaped.1 ⟨s, hs⟩
      · exact hrest.1 ⟨es', hes'⟩ key' v' hmem
    · intro h
      obtain ⟨s, hs⟩ := hv.shaped.2 (h key v List.mem_cons_self)
      obtain ⟨es, hes⟩ := hrest.2 fun key v hmem => h key v (List.mem_cons_of_mem _ hmem)
      exact ⟨_, bind_eq_ok.2 ⟨s, hs, bind_eq_ok.2 ⟨es, hes, rfl⟩⟩⟩

theorem decodeAll_described {members : Entries Value} (hmembers : ∀ e ∈ members, Decodes e.2) {es : Entries Schema}
    (h : decodeAll members = .ok es) : DescribesProperties (.object members) es := by
  induction members generalizing es with
  | nil =>
    cases h
    exact .nil
  | cons e members ih =>
    obtain ⟨key, v⟩ := e
    obtain ⟨s, hs, h⟩ := bind_eq_ok.1 h
    obtain ⟨es', hes', h⟩ := bind_eq_ok.1 h
    cases h
    have hv := hmembers (key, v) List.mem_cons_self
    exact .cons (hv.describes s hs) (ih (fun e h => hmembers e (List.mem_cons_of_mem _ h)) hes')

/-- Every value is read as its shape says. -/
theorem decodes (v : Value) : Decodes v := by
  refine Value.children_induction (fun v hchildren => ?_) v
  cases v with
  | object members =>
    have hmembers : ∀ e ∈ members, Decodes e.2 := fun e h => hchildren e.2 (List.mem_map_of_mem h)
    constructor
    · rw [decode, decodeMembers_shaped hmembers]
      exact ⟨.object, fun h => by cases h; assumption⟩
    · intro s h
      exact .object (decodeMembers_described hmembers describedBy_default h)
    · rw [decodeEntries, decodeAll_shaped hmembers]
      simp
    · intro es h
      exact decodeAll_described hmembers h
  | array items =>
    have hmembers : ∀ e ∈ keys.zip items, Decodes e.2 := fun e h => hchildren e.2 (List.of_mem_zip h).2
    constructor
    · simp only [decode_array_eq_ok, exists_and_left, decodeMembers_shaped hmembers]
      exact ⟨fun h => .array h.1 h.2, fun h => by cases h; exact ⟨‹_›, ‹_›⟩⟩
    · intro s h
      exact .array (decodeMembers_described hmembers describedBy_default (decode_array_eq_ok.1 h).2)
    · simp [decodeEntries]
    · simp [decodeEntries]
  | _ =>
    constructor
    · exact ⟨fun ⟨_, h⟩ => by simp [decode] at h, fun h => by cases h⟩
    · intro s h
      simp [decode] at h
    · simp [decodeEntries]
    · simp [decodeEntries]

/-! ## The schema that a value describes -/

mutual

/-- A value describes at most one schema. -/
theorem describes_unique {v : Value} {s s' : Schema} : Describes v s → Describes v s' → s = s'
  | .object h, .object h' => describedBy_unique h h'
  | .array h, .array h' => describedBy_unique h h'
termination_by structural h => h

theorem describedBy_unique {given : String → Option Value} {s s' : Schema} :
    DescribedBy given s → DescribedBy given s' → s = s'
  | .mk reference kind title description properties items enumeration required,
    .mk reference' kind' title' description' properties' items' enumeration' required' => by
    have hproperties := describesProperties_unique properties properties'
    have hitems := describesItems_unique items items'
    obtain ⟨⟩ := s
    obtain ⟨⟩ := s'
    rw [Schema.mk.injEq]
    exact ⟨Value.ofString?_inj (reference.symm.trans reference'), Value.ofString?_inj (kind.symm.trans kind'),
      Value.ofString?_inj (title.symm.trans title'), Value.ofString?_inj (description.symm.trans description'),
      hproperties, hitems, Value.array.inj (enumeration.symm.trans enumeration'),
      Value.ofStrings_inj (required.symm.trans required')⟩
termination_by structural h => h

theorem describesProperties_unique {v : Value} {es es' : Entries Schema} :
    DescribesProperties v es → DescribesProperties v es' → es = es'
  | .nil, .nil => rfl
  | .cons head tail, .cons head' tail' => by
    rw [describes_unique head head', describesProperties_unique tail tail']
termination_by structural h => h

theorem describesItems_unique {v : Value} {o o' : Option Schema} : DescribesItems v o → DescribesItems v o' → o = o'
  | .none, .none => rfl
  | .none, .some h => nomatch h
  | .some h, .none => nomatch h
  | .some h, .some h' => by rw [describes_unique h h']
termination_by structural h => h

end

/-- A value is read as a schema if it has the shape of one, and as the schema that it describes. -/
theorem decode_eq_ok_iff {v : Value} {s : Schema} : decode v = .ok s ↔ Shaped v ∧ Describes v s := by
  constructor
  · intro h
    exact ⟨(decodes v).shaped.1 ⟨s, h⟩, (decodes v).describes s h⟩
  · rintro ⟨hshaped, hs⟩
    obtain ⟨s', h⟩ := (decodes v).shaped.2 hshaped
    rwa [describes_unique hs ((decodes v).describes s' h)]

theorem exists_decode_eq_ok_iff {v : Value} : (∃ s, decode v = .ok s) ↔ Shaped v := (decodes v).shaped

theorem exists_decode_eq_error_iff {v : Value} : (∃ fault, decode v = .error fault) ↔ ¬ Shaped v := by
  rw [← exists_decode_eq_ok_iff]
  cases decode v <;> simp

end Schema

end LuaStubs.Api
