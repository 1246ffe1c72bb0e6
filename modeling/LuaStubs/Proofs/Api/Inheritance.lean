import LuaStubs.Proofs.Api.Resolution
import Mathlib.Data.List.Forall2
import Mathlib.Data.List.Nodup

/-!
# Parameters of a path item

The parameters of an endpoint are what the parameters of its path item, but for
those that the operation declares itself, and then those of the operation expand
to (`parameters_inherited`). `Document.Expands` has one case for each kind of
parameter. Where no list declares a parameter twice, each parameter of the path
and of the query is there once.
-/

namespace LuaStubs.Api

/-! ## Expansion -/

/-- What tells declared parameters apart: the name and the location. -/
def ParameterDecl.key (p : ParameterDecl) : String × String := (p.name, p.location)

namespace Document

/-- What a schema stands for: the definition that it refers to, or else itself. -/
inductive Dereferences (d : Document) (s : Schema) : Schema → Prop where
  | target {reference : String} {target : Schema} :
    s.reference = some reference → d.definition? (referenceName reference) = some target → Dereferences d s target
  | self : (∀ reference ∈ s.reference, d.definition? (referenceName reference) = none) → Dereferences d s s

/-- The schema of a declared parameter stands for an object with properties. -/
def HasObject (d : Document) (p : ParameterDecl) (object : Schema) : Prop :=
  ∃ s ∈ p.schema, d.Dereferences s object ∧ (object.kind = none ∨ object.kind = some "object") ∧
    object.properties ≠ []

/-- What a declared parameter expands to. -/
inductive Expands (d : Document) (p : ParameterDecl) : List Parameter → Prop where
  /-- A parameter of the path or the query is one parameter. -/
  | single {l : Location} : l ≠ .body → p.location = l.name → Expands d p [
      { name := p.name
        argument := Lua.argumentName p.name (kindCategory p.kind)
        location := l
        category := kindCategory p.kind
        description := p.description.getD ""
        required := p.required
        flattenedFrom := none }]
  /-- A parameter that travels elsewhere is none. -/
  | nowhere : (∀ l : Location, p.location ≠ l.name) → Expands d p []
  /-- An object in the body is a parameter for each of its properties. -/
  | properties {object : Schema} : p.location = Location.body.name → d.HasObject p object →
    Expands d p (object.properties.map fun (name, property) =>
      { name
        argument := Lua.argumentName name (d.category property)
        location := .body
        category := d.category property
        description := (property.title <|> property.description <|> p.description).getD ""
        required := if object.required = [] then p.required else name ∈ object.required
        flattenedFrom := some p.name })
  /-- Another body is one parameter. -/
  | whole {category : Category} : p.location = Location.body.name → (∀ object, ¬ d.HasObject p object) →
    (category = match p.schema with
      | some s => d.category s
      | none => kindCategory p.kind) → Expands d p [
      { name := p.name
        argument := Lua.argumentName p.name category
        location := .body
        category
        description := p.description.getD ""
        required := p.required
        flattenedFrom := none }]

variable {d : Document} {p : ParameterDecl}

theorem dereferences_iff {s object : Schema} :
    d.Dereferences s object ↔ ((d.referenced? s).map Prod.snd).getD s = object := by
  rw [referenced?_eq]
  constructor
  · rintro (⟨hs, htarget⟩ | hnone)
    · simp [hs, htarget]
    · have href := referenced?_eq_none_iff.2 hnone
      rw [referenced?_eq] at href
      simp [href]
  · rintro rfl
    cases hs : s.reference with
    | none => exact .self (by simp [hs])
    | some reference =>
      cases htarget : d.definition? (referenceName reference) with
      | none => simpa [htarget] using Dereferences.self (d := d) (s := s) (by simp [hs, htarget])
      | some target => simpa [htarget] using Dereferences.target hs htarget

theorem isFlattened_iff {object : Schema} :
    isFlattened object = true ↔ (object.kind = none ∨ object.kind = some "object") ∧ object.properties ≠ [] := by
  simp [isFlattened]

/-- What the parameter of a property says, with the title and the description of the property apart. -/
theorem propertyParameter_eq (object : Schema) (name : String) (property : Schema) :
    d.propertyParameter p object name property =
      { name
        argument := Lua.argumentName name (d.category property)
        location := .body
        category := d.category property
        description := (property.title <|> property.description <|> p.description).getD ""
        required := if object.required = [] then p.required else name ∈ object.required
        flattenedFrom := some p.name } := by
  have hsummary : (property.summary <|> p.description) =
      (property.title <|> property.description <|> p.description) := by
    rw [Schema.summary]
    cases property.title <;> rfl
  rw [propertyParameter, hsummary]
  simp

theorem expands_bodyParameters (h : p.location = Location.body.name) : d.Expands p (d.bodyParameters p) := by
  rw [bodyParameters]
  split
  · next hs => exact .whole h (by simp [HasObject, hs]) (by simp [hs])
  · next s hs =>
    by_cases hobject : isFlattened (((d.referenced? s).map Prod.snd).getD s) = true
    · simp only [hobject, if_true, propertyParameter_eq]
      exact .properties h ⟨s, hs, dereferences_iff.2 rfl, isFlattened_iff.1 hobject⟩
    · simp only [hobject, Bool.false_eq_true, if_false]
      refine .whole h ?_ (by simp [hs])
      rintro object ⟨s', hs', hderef, hflat⟩
      obtain rfl : s = s' := Option.some.inj (hs.symm.trans hs')
      rw [dereferences_iff.1 hderef] at hobject
      exact hobject (isFlattened_iff.2 hflat)

end Document

theorem Location.ofName?_eq_some_iff {name : String} {l : Location} : ofName? name = some l ↔ name = l.name := by
  constructor
  · intro h
    unfold ofName? at h
    split at h <;> cases h <;> rfl
  · rintro rfl
    cases l <;> rfl

theorem Location.name_inj {k l : Location} : k.name = l.name ↔ k = l := by
  cases k <;> cases l <;> decide

namespace Document

variable {d : Document} {p : ParameterDecl}

/-- Every declared parameter has its expansion. -/
theorem expands_flatten (d : Document) (p : ParameterDecl) : d.Expands p (d.flatten p) := by
  rw [flatten]
  cases hl : Location.ofName? p.location with
  | none =>
    refine .nowhere fun l hname => ?_
    rw [Location.ofName?_eq_some_iff.2 hname] at hl
    cases hl
  | some l =>
    have hname := Location.ofName?_eq_some_iff.1 hl
    cases l with
    | path => exact .single (by decide) hname
    | query => exact .single (by decide) hname
    | body => exact expands_bodyParameters hname

/-- All that a declared parameter expands to travels where it does. -/
theorem Expands.location_of_mem {ps : List Parameter} (h : d.Expands p ps) {q : Parameter} (hq : q ∈ ps) :
    p.location = q.location.name := by
  cases h with
  | single _ hp => obtain rfl := List.mem_singleton.1 hq; exact hp
  | nowhere => cases hq
  | properties hp => obtain ⟨⟨name, property⟩, -, rfl⟩ := List.mem_map.1 hq; exact hp
  | whole hp => obtain rfl := List.mem_singleton.1 hq; exact hp

/-- What is in one location comes from the parameters that are declared there. -/
theorem filter_flatMap_flatten (ps : List ParameterDecl) (l : Location) :
    ((ps.flatMap d.flatten).filter fun q => q.location = l) =
      (ps.filter fun p => p.location = l.name).flatMap d.flatten := by
  induction ps with
  | nil => rfl
  | cons p ps ih =>
    have hlocation : ∀ q ∈ d.flatten p, p.location = q.location.name := fun q hq =>
      (d.expands_flatten p).location_of_mem hq
    rw [List.flatMap_cons, List.filter_append, ih]
    by_cases hp : p.location = l.name
    · have hall : ((d.flatten p).filter fun q => q.location = l) = d.flatten p :=
        List.filter_eq_self.2 fun q hq =>
          decide_eq_true (Location.name_inj.1 ((hlocation q hq).symm.trans hp))
      rw [hall, List.filter_cons_of_pos (by simpa using hp), List.flatMap_cons]
    · have hnone : ((d.flatten p).filter fun q => q.location = l) = [] :=
        List.filter_eq_nil_iff.2 fun q hq hql => by
          rw [← of_decide_eq_true hql] at hp
          exact hp (hlocation q hq)
      rw [hnone, List.filter_cons_of_neg (by simpa using hp), List.nil_append]

/-- What a declared parameter adds to the path or the query has its name and its location, and is all that it
expands to. -/
theorem Expands.eq_singleton {ps : List Parameter} (h : d.Expands p ps) {q : Parameter} (hq : q ∈ ps)
    (hl : q.location ≠ .body) : ps = [q] ∧ p.key = (q.name, q.location.name) := by
  cases h with
  | single hk hp =>
    obtain rfl := List.mem_singleton.1 hq
    exact ⟨rfl, by rw [ParameterDecl.key, hp]⟩
  | nowhere => cases hq
  | properties =>
    obtain ⟨⟨name, property⟩, -, rfl⟩ := List.mem_map.1 hq
    exact absurd rfl hl
  | whole =>
    obtain rfl := List.mem_singleton.1 hq
    exact absurd rfl hl

/-- A parameter of the path or the query is there just once, and only if it is declared. -/
theorem Expands.count {ps : List Parameter} (h : d.Expands p ps) (name : String) {l : Location} (hl : l ≠ .body) :
    (ps.map fun q => (q.name, q.location)).count (name, l) = if p.key = (name, l.name) then 1 else 0 := by
  have hbody : p.location = Location.body.name → p.key ≠ (name, l.name) := fun hp hkey =>
    hl (Location.name_inj.1 ((Prod.mk.inj hkey).2.symm.trans hp))
  cases h with
  | @single k hk hp =>
    simp [ParameterDecl.key, hp, Location.name_inj, List.count_singleton]
  | nowhere hp =>
    have hkey : p.key ≠ (name, l.name) := fun hkey => hp l (Prod.mk.inj hkey).2
    simp [hkey]
  | properties hp =>
    rw [if_neg (hbody hp), List.count_eq_zero]
    simp [Ne.symm hl]
  | whole hp =>
    rw [if_neg (hbody hp), List.count_eq_zero]
    simp [hl]

/-- So is it in the expansion of a list. -/
theorem count_flatMap_flatten (ps : List ParameterDecl) (name : String) {l : Location} (hl : l ≠ .body) :
    ((ps.flatMap d.flatten).map fun q => (q.name, q.location)).count (name, l) =
      (ps.map ParameterDecl.key).count (name, l.name) := by
  induction ps with
  | nil => rfl
  | cons p ps ih =>
    rw [List.flatMap_cons, List.map_append, List.count_append, ih, (d.expands_flatten p).count name hl, List.map_cons,
      List.count_cons, Nat.add_comm]
    simp

end Document

/-! ## Inheritance -/

/-- The parameters of a path item that an operation does not declare itself. -/
def inherited (shared own : List ParameterDecl) : List ParameterDecl :=
  shared.filter fun c => c.key ∉ own.map ParameterDecl.key

namespace Document

variable {d : Document} {shared own : List ParameterDecl}

theorem mergeParameters_eq (shared own : List ParameterDecl) : mergeParameters shared own = inherited shared own ++ own := by
  rw [mergeParameters, inherited]
  congr 1
  refine List.filter_congr fun c _ => ?_
  rw [Bool.eq_iff_iff]
  simp [ParameterDecl.key]

/-- A parameter is inherited or declared if either list declares it. -/
theorem mem_keys_inherited_append {key : String × String} :
    key ∈ (inherited shared own ++ own).map ParameterDecl.key ↔ key ∈ (shared ++ own).map ParameterDecl.key := by
  by_cases hown : key ∈ own.map ParameterDecl.key
  · simp only [List.map_append, List.mem_append, hown, or_true]
  · have hinherited : key ∈ (inherited shared own).map ParameterDecl.key ↔ key ∈ shared.map ParameterDecl.key := by
      simp only [inherited, List.mem_map, List.mem_filter, decide_eq_true_eq]
      constructor
      · rintro ⟨c, ⟨hc, -⟩, rfl⟩
        exact ⟨c, hc, rfl⟩
      · rintro ⟨c, hc, rfl⟩
        exact ⟨c, ⟨hc, by simpa using hown⟩, rfl⟩
    simp only [List.map_append, List.mem_append, hinherited]

/-- Lists that declare nothing twice do not do so together. -/
theorem nodup_keys_inherited_append (hshared : (shared.map ParameterDecl.key).Nodup)
    (hown : (own.map ParameterDecl.key).Nodup) : ((inherited shared own ++ own).map ParameterDecl.key).Nodup := by
  rw [List.map_append, List.nodup_append]
  refine ⟨(List.filter_sublist.map _).nodup hshared, hown, ?_⟩
  rintro key hkey key' hkey' rfl
  obtain ⟨c, hc, rfl⟩ := List.mem_map.1 hkey
  exact of_decide_eq_true (List.mem_filter.1 hc).2 hkey'

end Document

/-- The parameters of an endpoint are made of the inherited ones and its own. -/
theorem Document.parameters_endpointOf (d : Document) (settings : Settings) (path : String) (method : Method)
    (o : Operation) (id : Identifier) (shared : List ParameterDecl) :
    (d.endpointOf settings path method o id shared).parameters =
      (inherited shared o.parameters ++ o.parameters).flatMap d.flatten := by
  rw [← mergeParameters_eq]
  rfl

/-- The parameters of an endpoint are what these expand to: first the parameters of the path item that the
operation does not declare itself, and then those of the operation. Each parameter of the path and of the
query that one of the lists declares is there once, and no other; where both declare it, it is that of the
operation. -/
theorem parameters_inherited {d : Document} {settings : Settings} {path : String} {method : Method}
    {raw : Json.Value} {e : Endpoint} {o : Operation} {shared : List ParameterDecl}
    (h : d.endpoint settings path method raw = .ok e) (ho : Operation.decode raw = .ok o)
    (hshared : d.sharedParameters path = .ok shared) (hdistinct : (shared.map ParameterDecl.key).Nodup)
    (hown : (o.parameters.map ParameterDecl.key).Nodup) :
    (∃ parts, List.Forall₂ d.Expands (inherited shared o.parameters ++ o.parameters) parts ∧
      e.parameters = parts.flatten) ∧
    (∀ (name : String) (l : Location), l ≠ .body →
      (e.parameters.map fun q => (q.name, q.location)).count (name, l) =
        if (name, l.name) ∈ (shared ++ o.parameters).map ParameterDecl.key then 1 else 0) ∧
    ∀ q ∈ e.parameters, q.location ≠ .body → ∀ p ∈ o.parameters, p.key = (q.name, q.location.name) →
      d.Expands p [q] := by
  obtain ⟨id, -, rfl⟩ := Document.endpoint_eq h ho hshared
  have hparameters := d.parameters_endpointOf settings path method o id shared
  have hnodup := Document.nodup_keys_inherited_append hdistinct hown
  refine ⟨⟨(inherited shared o.parameters ++ o.parameters).map d.flatten, ?_, ?_⟩, fun name l hl => ?_,
    fun q hq hl p hp hkey => ?_⟩
  · exact List.forall₂_map_right_iff.2 (List.forall₂_same.2 fun p _ => d.expands_flatten p)
  · rw [hparameters, List.flatMap_def]
  · rw [hparameters, Document.count_flatMap_flatten _ _ hl, hnodup.count]
    simp only [Document.mem_keys_inherited_append]
  · rw [hparameters] at hq
    obtain ⟨p', hp', hq⟩ := List.mem_flatMap.1 hq
    obtain ⟨hpart, hkey'⟩ := (d.expands_flatten p').eq_singleton hq hl
    -- The declarations have distinct keys, so the one that `q` comes from is that of the operation.
    obtain rfl : p' = p :=
      List.inj_on_of_nodup_map hnodup hp' (List.mem_append_right _ hp) (hkey'.trans hkey.symm)
    exact hpart ▸ d.expands_flatten p'

/-- A parameter as a document declares it. -/
def rawParameter (name location kind : String) : Json.Value :=
  .object [("name", .string name), ("in", .string location), ("type", .string kind)]

/-- An operation with the given parameters. -/
def rawOperation (parameters : List Json.Value) : Json.Value :=
  .object [("operationId", .string "List"), ("parameters", .array parameters)]

/-- A document with a path item that declares parameters. -/
def groupDocument : Document :=
  ⟨{}, [("/g", [("parameters", .array [rawParameter "limit" "query" "string", rawParameter "id" "path" "string"])])], [], []⟩

/-- An operation that declares `limit` anew keeps `id` from the path item, and has `limit` once, as it
declares it. -/
theorem parameters_inherited_limit :
    ∃ e, groupDocument.endpoint {} "/g" .get
        (rawOperation [rawParameter "limit" "query" "integer", rawParameter "limit" "header" "string"]) = .ok e ∧
      e.parameters.map (fun q => (q.name, q.location, q.category)) =
        [("id", .path, .string), ("limit", .query, .number)] ∧
      (e.parameters.map fun q => (q.name, q.location)).count ("limit", .query) = 1 := by
  have h := @parameters_inherited groupDocument {} "/g" .get
    (rawOperation [rawParameter "limit" "query" "integer", rawParameter "limit" "header" "string"])
    _ _ _ rfl rfl rfl (by decide) (by decide)
  exact ⟨_, rfl, rfl, h.2.1 "limit" .query (by decide)⟩

end LuaStubs.Api
