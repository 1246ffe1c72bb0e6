import LuaStubs.Proofs.Api.Resolution
import LuaStubs.Proofs.Lua.Argument
import LuaStubs.Proofs.Lua.Name
import LuaStubs.Rest.Context

/-!
# Argument lists

Every parameter and every property is named by `Lua.argumentName`, so all
arguments are names (`isName_argument`, `isName_property`), and two of them have
one name just if they have the same argument base and the same type
(`argumentNames_nodup_iff`). Where a parameter travels has no part in its name:
a path and a query parameter of one name and type become two arguments of one
name (`argumentNames_repeat_id`).
-/

namespace LuaStubs.Api

/-- The order of the arguments is a rearrangement of the order of declaration. -/
theorem Endpoint.orderedParameters_perm (e : Endpoint) : e.orderedParameters.Perm e.parameters := by
  simp only [orderedParameters, Location.all, parametersIn, List.flatMap_cons, List.flatMap_nil, List.append_nil]
  induction e.parameters with
  | nil => exact .refl _
  | cons p ps ih =>
    cases hp : p.location with
    | path => simpa [hp] using ih.cons p
    | query =>
      have hmove := @List.perm_middle _ p (ps.filter fun x => x.location = .path)
        ((ps.filter fun x => x.location = .query) ++ ps.filter fun x => x.location = .body)
      simpa [hp] using hmove.trans (ih.cons p)
    | body =>
      have hmove := @List.perm_middle _ p ((ps.filter fun x => x.location = .path) ++
        ps.filter fun x => x.location = .query) (ps.filter fun x => x.location = .body)
      simpa [hp] using hmove.trans (by simpa using ih.cons p)

namespace Document

/-- A flat parameter is named after its name and category. -/
theorem argument_of_mem_flatten {d : Document} {decl : ParameterDecl} {p : Parameter} (hp : p ∈ d.flatten decl) :
    p.argument = Lua.argumentName p.name p.category := by
  rw [flatten] at hp
  split at hp
  · rw [bodyParameters] at hp
    split at hp
    · rw [List.mem_singleton.1 hp, flatParameter]
    · dsimp only at hp
      split at hp
      · obtain ⟨⟨name, property⟩, -, rfl⟩ := List.mem_map.1 hp
        rw [propertyParameter]
      · rw [List.mem_singleton.1 hp, flatParameter]
  · rw [List.mem_singleton.1 hp, flatParameter]
  · cases hp

/-- So is every parameter of an endpoint. -/
theorem argument_of_mem_parameters {d : Document} {settings : Settings} {path : String} {method : Method}
    {raw : Json.Value} {e : Endpoint} (h : d.endpoint settings path method raw = .ok e) {p : Parameter}
    (hp : p ∈ e.parameters) : p.argument = Lua.argumentName p.name p.category := by
  obtain ⟨o, id, shared, -, -, rfl⟩ := endpoint_eq_ok h
  obtain ⟨decl, -, hmem⟩ := List.mem_flatMap.1 hp
  exact argument_of_mem_flatten hmem

/-- So is every property of a definition. -/
theorem argument_of_mem_properties {d : Document} {name : String} {s : Schema} {p : Property}
    (hp : p ∈ (d.definition name s).properties) : p.argument = Lua.argumentName p.name p.category := by
  obtain ⟨⟨key, property⟩, -, rfl⟩ := List.mem_map.1 hp
  rfl

end Document

end LuaStubs.Api

namespace LuaStubs.Rest

open Api (Document Endpoint Parameter Property Settings)

/-! ## Names that are told apart -/

/-- The names that generated functions take beside their own arguments. -/
def fixedArguments : List String := ["client", "callback", "retry_policy", "cancellation_token"]

theorem argumentName_not_mem_fixedArguments (name : String) (category : Category) :
    Lua.argumentName name category ∉ fixedArguments := by
  have hfixed : ∀ x ∈ fixedArguments, x ∈ Lua.fixedNames := by decide
  exact fun hmem => Lua.argumentName_not_mem_fixedNames name category (hfixed _ hmem)

/-- Things named after their names and categories have distinct arguments just if they have distinct
bases or types. -/
theorem nodup_map_argument_iff {α : Type} {xs : List α} {argument name : α → String} {category : α → Category}
    (h : ∀ x ∈ xs, argument x = Lua.argumentName (name x) (category x)) :
    (xs.map argument).Nodup ↔ (xs.map fun x => (Lua.argumentBase (name x), category x)).Nodup := by
  induction xs with
  | nil => simp
  | cons x xs ih =>
    rw [List.map_cons, List.map_cons, List.nodup_cons, List.nodup_cons,
      ih fun y hy => h y (List.mem_cons_of_mem _ hy)]
    refine and_congr_left fun _ => not_congr ?_
    simp only [List.mem_map]
    refine exists_congr fun y => and_congr_right fun hy => ?_
    rw [h x (List.mem_cons_self ..), h y (List.mem_cons_of_mem _ hy), Lua.argumentName_inj, Prod.mk.injEq]

/-- The fixed arguments of a caller are never in the way. -/
theorem argumentNames_nodup {e : Endpoint}
    (h : ∀ p ∈ e.parameters, p.argument = Lua.argumentName p.name p.category) :
    (EndpointContext.argumentNames e).Nodup ↔ (e.parameters.map Parameter.argument).Nodup := by
  have hfixed : ∀ x ∈ fixedArguments, x ∉ e.parameters.map Parameter.argument := by
    intro x hx hmem
    obtain ⟨p, hp, rfl⟩ := List.mem_map.1 hmem
    rw [h p hp] at hx
    exact argumentName_not_mem_fixedArguments _ _ hx
  have hperm : (EndpointContext.argumentNames e).Perm (fixedArguments ++ e.parameters.map Parameter.argument) := by
    rw [EndpointContext.argumentNames, fixedArguments]
    refine List.Perm.cons _ ?_
    exact List.perm_append_comm.trans ((e.orderedParameters_perm.map _).append_left _)
  rw [hperm.nodup_iff, List.nodup_append]
  refine ⟨fun ⟨_, hnodup, _⟩ => hnodup, fun hnodup => ⟨by decide, hnodup, ?_⟩⟩
  rintro x hx y hy rfl
  exact hfixed x hx hy

/-! ## Argument lists -/

section Names

variable {d : Document} {settings : Settings} {r : Api.Resolved}

theorem isName_parameter (hr : d.resolve settings = .ok r) {e : Endpoint} (he : e ∈ r.endpoints) {p : Parameter}
    (hp : p ∈ e.parameters) : Lua.isName p.argument = true := by
  obtain ⟨operation, -, hend⟩ := (Document.mem_endpoints_iff hr).1 he
  rw [Document.argument_of_mem_parameters hend hp]
  exact Lua.isName_argumentName ..

theorem isName_property (hr : d.resolve settings = .ok r) {c : Api.Definition} (hc : c ∈ r.definitions)
    {p : Property} (hp : p ∈ c.properties) : Lua.isName p.argument = true := by
  obtain ⟨⟨name, s⟩, -, rfl⟩ := (Document.mem_definitions_iff hr).1 hc
  rw [Document.argument_of_mem_properties hp]
  exact Lua.isName_argumentName ..

/-- All arguments of a caller are names. -/
theorem isName_argument (hr : d.resolve settings = .ok r) {e : Endpoint} (he : e ∈ r.endpoints) {x : String}
    (hx : x ∈ EndpointContext.argumentNames e) : Lua.isName x = true := by
  have hfixed : ∀ x ∈ fixedArguments, Lua.isName x = true := by decide
  rw [EndpointContext.argumentNames, List.mem_append, List.mem_cons, List.mem_map] at hx
  rcases hx with (rfl | ⟨p, hp, rfl⟩) | hx
  · exact hfixed _ (List.mem_cons_self ..)
  · exact isName_parameter hr he (e.orderedParameters_perm.mem_iff.1 hp)
  · exact hfixed x (List.mem_cons_of_mem _ hx)

end Names

/-- The names in an argument list are distinct just if what they are made of is. The arguments of the
caller of an endpoint are the fixed ones and one for each parameter, those of a constructor one for
each property. No two of them have one name, unless two parameters, or two properties, have the same
argument base and the same type. -/
theorem argumentNames_nodup_iff (d : Document) (settings : Settings) :
    ∃ r, d.resolve settings = .ok r ∧
      (∀ e ∈ r.endpoints,
        (EndpointContext.ofEndpoint e).signature = Text.commaSeparated (EndpointContext.argumentNames e) ∧
        ((EndpointContext.argumentNames e).Nodup ↔
          (e.parameters.map fun p => (Lua.argumentBase p.name, p.category)).Nodup)) ∧
      ∀ c ∈ r.definitions,
        (DefinitionContext.ofDefinition c).signature = Text.commaSeparated (c.properties.map Property.argument) ∧
        ((c.properties.map Property.argument).Nodup ↔
          (c.properties.map fun p => (Lua.argumentBase p.name, p.category)).Nodup) := by
  have hr := Document.resolve_eq d settings
  refine ⟨_, hr, fun e he => ⟨rfl, ?_⟩, fun c hc => ⟨rfl, ?_⟩⟩
  · obtain ⟨operation, -, hend⟩ := (Document.mem_endpoints_iff hr).1 he
    have hargument : ∀ p ∈ e.parameters, p.argument = Lua.argumentName p.name p.category :=
      fun p hp => Document.argument_of_mem_parameters hend hp
    rw [argumentNames_nodup hargument, nodup_map_argument_iff hargument]
  · obtain ⟨⟨name, s⟩, -, rfl⟩ := (Document.mem_definitions_iff hr).1 hc
    exact nodup_map_argument_iff fun p hp => Document.argument_of_mem_properties hp

/-- An operation with a path and a query parameter of one name, and a definition with two properties
whose argument bases are the same. -/
def idText : String :=
  "\x7b\"paths\":\x7b\"/u\":\x7b\"get\":\x7b\"operationId\":\"U\",\"parameters\":[" ++
  "\x7b\"name\":\"id\",\"in\":\"path\"\x7d,\x7b\"name\":\"id\",\"in\":\"query\"\x7d]\x7d\x7d\x7d," ++
  "\"definitions\":\x7b\"U\":\x7b\"properties\":\x7b\"aB\":\x7b\x7d,\"a_b\":\x7b\x7d\x7d\x7d\x7d\x7d"

/-- The two parameters become one argument twice, and so do the two properties. -/
theorem argumentNames_repeat_id :
    ∃ d r, Document.ofText idText = .ok d ∧ d.resolve {} = .ok r ∧
      (∃ e ∈ r.endpoints, (e.parameters.map fun p => (p.name, p.location)).Nodup ∧
        EndpointContext.argumentNames e =
          ["client", "id_table", "id_table", "callback", "retry_policy", "cancellation_token"]) ∧
      ∃ c ∈ r.definitions, (c.properties.map Property.name).Nodup ∧
        c.properties.map Property.argument = ["a_b_table", "a_b_table"] := by
  exact Document.exists_resolved (by decide +kernel)

end LuaStubs.Rest
