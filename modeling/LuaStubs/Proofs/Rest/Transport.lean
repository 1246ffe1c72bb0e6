import LuaStubs.Proofs.Rest.Arguments

/-!
# How parameters travel

A caller takes the parameters of its endpoint in the order of their locations
(`filter_orderedParameters`, `orderedParameters_pairwise`), and puts each of them
into the path, the query or the body, once (`parameters_travel_once`).
-/

namespace LuaStubs.Api

/-- The place of a location in an argument list. -/
def Location.place : Location → Nat
  | .path => 0
  | .query => 1
  | .body => 2

namespace Endpoint

/-- The parameters of the path come first, and those of the body last. -/
theorem orderedParameters_eq (e : Endpoint) :
    e.orderedParameters = e.parametersIn .path ++ e.parametersIn .query ++ e.parametersIn .body := by
  simp only [orderedParameters, Location.all, List.flatMap_cons, List.flatMap_nil, List.append_nil,
    List.append_assoc]

theorem location_of_mem_parametersIn {e : Endpoint} {l : Location} {p : Parameter} (hp : p ∈ e.parametersIn l) :
    p.location = l :=
  of_decide_eq_true (List.mem_filter.1 hp).2

theorem filter_parametersIn (e : Endpoint) (k l : Location) :
    ((e.parametersIn k).filter fun p => p.location = l) = if k = l then e.parametersIn l else [] := by
  split
  · next h =>
    subst h
    exact List.filter_eq_self.2 fun p hp => decide_eq_true (location_of_mem_parametersIn hp)
  · next h =>
    refine List.filter_eq_nil_iff.2 fun p hp => ?_
    rw [location_of_mem_parametersIn hp]
    simpa using h

/-- The parameters of one location keep their order. -/
theorem filter_orderedParameters (e : Endpoint) (l : Location) :
    (e.orderedParameters.filter fun p => p.location = l) = e.parametersIn l := by
  rw [orderedParameters_eq, List.filter_append, List.filter_append, filter_parametersIn, filter_parametersIn,
    filter_parametersIn]
  cases l <;> simp

/-- No parameter comes before one whose location has an earlier place. -/
theorem orderedParameters_pairwise (e : Endpoint) :
    e.orderedParameters.Pairwise fun p q => p.location.place ≤ q.location.place := by
  have hplaces : ∀ {k l : Location}, k.place ≤ l.place → ∀ p ∈ e.parametersIn k, ∀ q ∈ e.parametersIn l,
      p.location.place ≤ q.location.place := fun hkl p hp q hq => by
    rw [location_of_mem_parametersIn hp, location_of_mem_parametersIn hq]
    exact hkl
  have hin : ∀ l, (e.parametersIn l).Pairwise fun p q => p.location.place ≤ q.location.place :=
    fun l => List.pairwise_of_forall_mem_list (hplaces (Nat.le_refl _))
  rw [orderedParameters_eq, List.pairwise_append, List.pairwise_append]
  refine ⟨⟨hin _, hin _, hplaces (by decide)⟩, hin _, fun p hp => ?_⟩
  rcases List.mem_append.1 hp with hp | hp
  · exact hplaces (by decide) p hp
  · exact hplaces (by decide) p hp

end Endpoint

end LuaStubs.Api

namespace LuaStubs.Rest.EndpointContext

open Api (Endpoint Parameter)

/-- A parameter is the body by itself if it is the only one there and no property of another one. -/
theorem bodyParameter?_eq_some_iff {e : Endpoint} {p : Parameter} :
    bodyParameter? e = some p ↔ e.parametersIn .body = [p] ∧ p.flattenedFrom = none := by
  rw [bodyParameter?]
  split
  · next q hq =>
    rw [hq, ← Option.isNone_iff_eq_none]
    grind
  · next hne =>
    simp only [reduceCtorEq, false_iff, not_and]
    exact fun h => absurd h (hne p)

/-- The body is a table just if there is something in it that is not its value. -/
theorem bodyFields_ne_nil_iff (e : Endpoint) :
    (ofEndpoint e).bodyFields ≠ [] ↔ e.parametersIn .body ≠ [] ∧ (ofEndpoint e).bodyValue = none := by
  rw [ofEndpoint]
  cases bodyParameter? e <;> simp

theorem bodyValue_eq_some_iff {e : Endpoint} {x : String} : (ofEndpoint e).bodyValue = some x ↔
    ∃ p, e.parametersIn .body = [p] ∧ p.flattenedFrom = none ∧ p.argument = x := by
  simp only [ofEndpoint, Option.map_eq_some_iff, bodyParameter?_eq_some_iff, and_assoc]

/-- The parameters of the body are the fields of the body, or the only one is its value. -/
theorem bodyFields_or_bodyValue (e : Endpoint) :
    ((ofEndpoint e).bodyValue = none ∧ (ofEndpoint e).bodyFields = (e.parametersIn .body).map .ofParameter) ∨
      ∃ p, e.parametersIn .body = [p] ∧ (ofEndpoint e).bodyValue = some p.argument ∧
        (ofEndpoint e).bodyFields = [] := by
  cases hvalue : bodyParameter? e with
  | none => exact .inl (by simp [ofEndpoint, hvalue])
  | some p =>
    have hp : e.parametersIn .body = [p] := (bodyParameter?_eq_some_iff.1 hvalue).1
    exact .inr ⟨p, hp, by simp [ofEndpoint, hvalue]⟩

/-- What the template of an endpoint reads to tell whether the body is a table. -/
theorem lookup_has_body_fields (c : EndpointContext) :
    ∃ members, c.toJson = .object members ∧ members.lookup "has_body_fields" = some (.bool !c.bodyFields.isEmpty) :=
  ⟨_, rfl, rfl⟩

/-- The arguments are what the path, the query and the body take. -/
theorem arguments_eq (e : Endpoint) : (ofEndpoint e).arguments =
    (ofEndpoint e).pathArguments ++ (ofEndpoint e).queryArguments ++ (e.parametersIn .body).map .ofParameter := by
  simp only [ofEndpoint, e.orderedParameters_eq, List.map_append]

theorem signature_eq (e : Endpoint) : (ofEndpoint e).signature =
    Text.commaSeparated ("client" :: (ofEndpoint e).arguments.map ArgumentContext.argument ++
      ["callback", "retry_policy", "cancellation_token"]) := by
  simp only [ofEndpoint, argumentNames, List.map_map]
  rfl

/-- The function that calls an endpoint passes each parameter on exactly once. Its arguments are the
parameters, those in the path first, then those of the query and then those of the body, each group in
the order of declaration. They are what the path, the query and the body take, put together: the body
is a table of fields, or one value if its only parameter was not flattened, and never both. -/
theorem parameters_travel_once (e : Endpoint) :
    let c := ofEndpoint e
    (e.orderedParameters.Perm e.parameters ∧
      e.orderedParameters.Pairwise (fun p q => p.location.place ≤ q.location.place) ∧
      ∀ l, (e.orderedParameters.filter fun p => p.location = l) = e.parameters.filter fun p => p.location = l) ∧
    (c.arguments = e.orderedParameters.map .ofParameter ∧
      c.signature = Text.commaSeparated ("client" :: c.arguments.map ArgumentContext.argument ++
        ["callback", "retry_policy", "cancellation_token"])) ∧
    (c.arguments = c.pathArguments ++ c.queryArguments ++ (e.parametersIn .body).map .ofParameter ∧
      c.pathArguments = (e.parametersIn .path).map .ofParameter ∧
      c.queryArguments = (e.parametersIn .query).map .ofParameter ∧
      ((c.bodyValue = none ∧ c.bodyFields = (e.parametersIn .body).map .ofParameter) ∨
        ∃ p, e.parametersIn .body = [p] ∧ c.bodyValue = some p.argument ∧ c.bodyFields = [])) ∧
    (∀ x, c.bodyValue = some x ↔
      ∃ p, e.parametersIn .body = [p] ∧ p.flattenedFrom = none ∧ p.argument = x) ∧
    (c.bodyFields ≠ [] ↔ e.parametersIn .body ≠ [] ∧ c.bodyValue = none) ∧
    (∃ members, c.toJson = .object members ∧
      members.lookup "has_body_fields" = some (.bool !c.bodyFields.isEmpty)) ∧
    ¬ (c.bodyFields ≠ [] ∧ c.bodyValue ≠ none) := by
  exact ⟨⟨e.orderedParameters_perm, e.orderedParameters_pairwise, e.filter_orderedParameters⟩,
    ⟨rfl, signature_eq e⟩, ⟨arguments_eq e, rfl, rfl, bodyFields_or_bodyValue e⟩,
    fun _ => bodyValue_eq_some_iff, bodyFields_ne_nil_iff e, lookup_has_body_fields (ofEndpoint e),
    fun hboth => hboth.2 ((bodyFields_ne_nil_iff e).1 hboth.1).2⟩

end LuaStubs.Rest.EndpointContext
