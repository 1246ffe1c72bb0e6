import LuaStubs.Api.Resolution
import LuaStubs.Proofs.Attempt

/-!
# Resolution is complete

Resolving a document never fails: an operation that cannot be resolved is about
itself only (`resolveOperation_eq`). Every operation is an endpoint or a skip,
and every definition of the outline too, each in the order of declaration
(`accounts_operations`, `accounts_definitions`).
-/

namespace LuaStubs.Api

namespace Document

/-! ## References -/

theorem referenced?_eq {d : Document} (s : Schema) :
    d.referenced? s =
      s.reference.bind fun reference => (d.definition? (referenceName reference)).map (referenceName reference, ·) := by
  rw [referenced?]
  cases s.reference with
  | none => rfl
  | some reference => cases hd : d.definition? (referenceName reference) <;> simp [hd]

theorem referenced?_eq_none_iff {d : Document} {s : Schema} :
    d.referenced? s = none ↔ ∀ reference ∈ s.reference, d.definition? (referenceName reference) = none := by
  simp only [referenced?_eq, Option.bind_eq_none_iff, Option.map_eq_none_iff, Option.mem_def]

/-! ## Operations -/

/-- What becomes of an operation: an endpoint, or the skip that stands for it. -/
def outcome (d : Document) (settings : Settings) (operation : String × Method × Json.Value) :
    Except Skip Endpoint :=
  (d.resolveEndpoint settings operation.1 operation.2.1 operation.2.2).mapError fun e =>
    ⟨.endpoint, operationName operation.2.1 operation.1, e.message⟩

/-- All errors of an operation are about that operation. -/
theorem isEntityError_of_resolveEndpoint {d : Document} {settings : Settings} {path : String} {method : Method}
    {raw : Json.Value} {e : Error} (h : d.resolveEndpoint settings path method raw = .error e) :
    e.isEntityError = true := by
  rw [resolveEndpoint] at h
  cases hend : d.endpoint settings path method raw with
  | ok x => rw [hend] at h; cases h
  | error fault =>
    rw [hend] at h
    cases h
    rfl

/-- No operation ends the run. -/
theorem resolveOperation_eq (d : Document) (settings : Settings) (operation : String × Method × Json.Value) :
    d.resolveOperation settings operation = .ok (d.outcome settings operation) := by
  obtain ⟨path, method, raw⟩ := operation
  rw [resolveOperation, outcome]
  cases h : d.resolveEndpoint settings path method raw with
  | ok e => rfl
  | error e => simp only [attempt, isEntityError_of_resolveEndpoint h, if_true]; rfl

/-- What an endpoint is made of, and what it takes: the decoded operation, its id and the parameters of
its path item. -/
theorem endpoint_eq_ok_iff {d : Document} {settings : Settings} {path : String} {method : Method}
    {raw : Json.Value} {e : Endpoint} :
    d.endpoint settings path method raw = .ok e ↔
      ∃ o id shared, Operation.decode raw = .ok o ∧ operationId? settings o = some id ∧
        d.sharedParameters path = .ok shared ∧ e = d.endpointOf settings path method o id shared := by
  rw [endpoint]
  cases hoperation : Operation.decode raw with
  | error fault => simp [bind, Except.bind]
  | ok o =>
    cases hid : operationId? settings o with
    | none => simp [bind, Except.bind, hid]
    | some id =>
      cases hshared : d.sharedParameters path with
      | error fault => simp [bind, Except.bind, hid]
      | ok shared => simp [bind, Except.bind, hid, eq_comm]

theorem endpoint_eq_ok {d : Document} {settings : Settings} {path : String} {method : Method}
    {raw : Json.Value} {e : Endpoint} (h : d.endpoint settings path method raw = .ok e) :
    ∃ o id shared, Operation.decode raw = .ok o ∧ operationId? settings o = some id ∧
      e = d.endpointOf settings path method o id shared := by
  obtain ⟨o, id, shared, ho, hid, -, he⟩ := endpoint_eq_ok_iff.1 h
  exact ⟨o, id, shared, ho, hid, he⟩

/-- The endpoint of an operation whose parts are known. -/
theorem endpoint_eq {d : Document} {settings : Settings} {path : String} {method : Method}
    {raw : Json.Value} {e : Endpoint} {o : Operation} {shared : List ParameterDecl}
    (h : d.endpoint settings path method raw = .ok e) (ho : Operation.decode raw = .ok o)
    (hshared : d.sharedParameters path = .ok shared) :
    ∃ id, operationId? settings o = some id ∧ e = d.endpointOf settings path method o id shared := by
  obtain ⟨o', id, shared', ho', hid, hshared', he⟩ := endpoint_eq_ok_iff.1 h
  obtain rfl : o = o' := Except.ok.inj (ho.symm.trans ho')
  obtain rfl : shared = shared' := Except.ok.inj (hshared.symm.trans hshared')
  exact ⟨id, hid, he⟩

/-- The endpoint of an operation has its path and its method. -/
theorem endpoint_path_method {d : Document} {settings : Settings} {path : String} {method : Method}
    {raw : Json.Value} {e : Endpoint} (h : d.endpoint settings path method raw = .ok e) :
    e.path = path ∧ e.method = method := by
  obtain ⟨o, id, shared, -, -, rfl⟩ := endpoint_eq_ok h
  exact ⟨rfl, rfl⟩

/-- An operation has an outcome just if it has an endpoint. -/
theorem outcome_eq_ok {d : Document} {settings : Settings} {operation : String × Method × Json.Value} {e : Endpoint} :
    d.outcome settings operation = .ok e ↔ d.endpoint settings operation.1 operation.2.1 operation.2.2 = .ok e := by
  rw [outcome, resolveEndpoint]
  cases d.endpoint settings operation.1 operation.2.1 operation.2.2 <;> simp

theorem outcome_ok {d : Document} {settings : Settings} {operation : String × Method × Json.Value} {e : Endpoint}
    (h : d.outcome settings operation = .ok e) : e.path = operation.1 ∧ e.method = operation.2.1 :=
  endpoint_path_method (outcome_eq_ok.1 h)

theorem outcome_error {d : Document} {settings : Settings} {operation : String × Method × Json.Value} {s : Skip}
    (h : d.outcome settings operation = .error s) :
    s.kind = .endpoint ∧ s.name = operationName operation.2.1 operation.1 := by
  rw [outcome] at h
  cases hend : d.resolveEndpoint settings operation.1 operation.2.1 operation.2.2 with
  | ok x => rw [hend] at h; cases h
  | error e =>
    rw [hend] at h
    cases h
    exact ⟨rfl, rfl⟩

/-! ## Documents -/

/-- The skip of a definition that is no schema. -/
def rejection (rejected : String × Json.ShapeFault) : Skip := ⟨.definition, rejected.1, rejected.2.message⟩

/-- Every document is resolved. -/
theorem resolve_eq (d : Document) (settings : Settings) : d.resolve settings = .ok {
    endpoints := successes (d.operations.map (d.outcome settings))
    definitions := d.definitions.map fun (name, s) => d.definition name s
    skipped := failures (d.operations.map (d.outcome settings)) ++ d.rejected.map rejection } := by
  rw [resolve, mapM_eq_ok (d.resolveOperation_eq settings)]
  rfl

/-- What can be computed of a text is so of the document that it holds and of what that resolves to. -/
theorem exists_resolved {text : String} {settings : Settings} {p : Document → Resolved → Prop}
    [∀ d r, Decidable (p d r)]
    (h : ((ofText text).toOption.any fun d => (d.resolve settings).toOption.any fun r => p d r) = true) :
    ∃ d r, ofText text = .ok d ∧ d.resolve settings = .ok r ∧ p d r := by
  obtain ⟨d, hd, h⟩ := (Option.any_eq_true _ _).1 h
  obtain ⟨r, hr, h⟩ := (Option.any_eq_true _ _).1 h
  exact ⟨d, r, toOption_eq_some_iff.1 hd, toOption_eq_some_iff.1 hr, of_decide_eq_true h⟩

/-- The endpoints that a document resolves to are those of its operations. -/
theorem mem_endpoints_iff {d : Document} {settings : Settings} {r : Resolved} (hr : d.resolve settings = .ok r)
    {e : Endpoint} : e ∈ r.endpoints ↔
      ∃ operation ∈ d.operations, d.endpoint settings operation.1 operation.2.1 operation.2.2 = .ok e := by
  rw [resolve_eq, Except.ok.injEq] at hr
  subst hr
  simp only [mem_successes_iff, List.mem_map, outcome_eq_ok]

/-- The definitions that a document resolves to are those of its schemas. -/
theorem mem_definitions_iff {d : Document} {settings : Settings} {r : Resolved} (hr : d.resolve settings = .ok r)
    {c : Definition} : c ∈ r.definitions ↔ ∃ entry ∈ d.definitions, d.definition entry.1 entry.2 = c := by
  rw [resolve_eq, Except.ok.injEq] at hr
  subst hr
  simp only [List.mem_map]

/-- Every operation is an endpoint or a skip. -/
theorem accounts_operations (d : Document) (settings : Settings) :
    Accounts (fun op e => e.path = op.1 ∧ e.method = op.2.1)
      (fun op s => s.kind = .endpoint ∧ s.name = operationName op.2.1 op.1) d.operations
      (successes (d.operations.map (d.outcome settings))) (failures (d.operations.map (d.outcome settings))) :=
  .of_outcomes _ (fun _ _ => outcome_ok) (fun _ _ => outcome_error) _

/-- Every definition is made, or is a skip. -/
theorem accounts_definitions (d : Document) (declared : Entries Json.Value) :
    Accounts (fun entry definition => definition.rawName = entry.1 ∧ definition.name = Identifier.ofName entry.1)
      (fun entry s => s.kind = .definition ∧ s.name = entry.1) declared
      ((acceptedIn declared).map fun (name, s) => d.definition name s) ((rejectedIn declared).map rejection) := by
  induction declared with
  | nil => exact .nil
  | cons entry rest ih =>
    obtain ⟨name, v⟩ := entry
    cases hv : Schema.decode v with
    | ok schema =>
      simp only [acceptedIn, rejectedIn, hv, List.map_cons]
      exact .made ⟨rfl, rfl⟩ ih
    | error fault =>
      simp only [acceptedIn, rejectedIn, hv, List.map_cons]
      exact .skipped ⟨rfl, rfl⟩ ih

end Document

end LuaStubs.Api
