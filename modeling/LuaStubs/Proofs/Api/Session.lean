import LuaStubs.Proofs.Api.Resolution

/-!
# Endpoints that return a session

A response is a session if its own schema refers to the session definition
(`Document.IsSession`). An endpoint is marked as returning a session also if the
items of a response's schema refer to it (`Document.ListsSessions`), so that the
mark is right just if no response is such a list or another one is a session
(`session_recognised_iff`).
-/

namespace LuaStubs.Api

/-! ## References to the session definition -/

/-- The schema itself refers to a definition whose name is that of sessions. -/
def Document.IsSession (d : Document) (settings : Settings) (s : Schema) : Prop :=
  ∃ reference ∈ s.reference, (∃ target, d.definition? (referenceName reference) = some target) ∧
    normalize (referenceName reference) = normalize settings.sessionDefinition

/-- The schema itself refers to no definition, and its items are sessions. -/
def Document.ListsSessions (d : Document) (settings : Settings) (s : Schema) : Prop :=
  (∀ reference ∈ s.reference, d.definition? (referenceName reference) = none) ∧
    ∃ items ∈ s.items, d.IsSession settings items

/-- The key stands for a code of success, 200 to 299. -/
def StatusCode.IsSuccessKey (key : String) : Prop := ∃ n, ofKey? key = some (.code n) ∧ 200 ≤ n ∧ n ≤ 299

/-- The operation has a response under a key of success whose schema is as `p` says. -/
def Operation.SucceedsWith (o : Operation) (p : Schema → Prop) : Prop :=
  ∃ entry ∈ o.responses, StatusCode.IsSuccessKey entry.1 ∧ ∃ s ∈ entry.2.schema, p s

namespace Document

variable {d : Document} {settings : Settings}

/-- A schema is a session if the name of what it refers to is that of sessions. -/
theorem isSession_iff {s : Schema} :
    d.IsSession settings s ↔
      ∃ r ∈ d.referenced? s, Identifier.ofName r.1 = Identifier.ofName settings.sessionDefinition := by
  simp only [IsSession, referenced?_eq, Option.mem_def, Option.bind_eq_some_iff, Option.map_eq_some_iff,
    Identifier.ofName, Identifier.mk.injEq]
  constructor
  · rintro ⟨reference, hs, ⟨target, htarget⟩, hname⟩
    exact ⟨_, ⟨reference, hs, target, htarget, rfl⟩, hname⟩
  · rintro ⟨_, ⟨reference, hs, target, htarget, rfl⟩, hname⟩
    exact ⟨reference, hs, ⟨target, htarget⟩, hname⟩

/-- What a schema refers to is the session definition if it is a session or lists sessions. -/
theorem schemaRef?_eq_session_iff {s : Schema} :
    d.schemaRef? s = some (Identifier.ofName settings.sessionDefinition) ↔
      d.IsSession settings s ∨ d.ListsSessions settings s := by
  rw [schemaRef?, ListsSessions, ← referenced?_eq_none_iff, Option.map_eq_some_iff]
  cases hs : d.referenced? s with
  | some r => simp [isSession_iff, hs]
  | none =>
    have hown : ¬ d.IsSession settings s := by simp [isSession_iff, hs]
    rw [or_iff_right hown, and_iff_right rfl]
    simp only [isSession_iff, Option.mem_def]
    constructor
    · rintro ⟨r, hr, hname⟩
      obtain ⟨items, hitems, hr⟩ := Option.bind_eq_some_iff.1 hr
      exact ⟨items, hitems, r, hr, hname⟩
    · rintro ⟨items, hitems, r, hr, hname⟩
      exact ⟨r, Option.bind_eq_some_iff.2 ⟨items, hitems, hr⟩, hname⟩

/-! ## Responses -/

end Document

theorem StatusCode.isSuccessKey_iff {key : String} :
    IsSuccessKey key ↔ ∃ code ∈ ofKey? key, code.isSuccess := by
  rw [IsSuccessKey]
  cases ofKey? key with
  | none => simp
  | some code => cases code <;> simp [isSuccess]

namespace Document

variable {d : Document} {settings : Settings}

/-- A test of responses that tells which of them have a schema as `p` says tells whether the operation
succeeds with one. -/
theorem any_success_iff {o : Operation} {test : Response → Bool} {p : Schema → Prop}
    (htest : ∀ key r, ∀ response ∈ d.response? key r, (test response = true ↔ ∃ s ∈ r.schema, p s)) :
    ((o.responses.filterMap fun entry => d.response? entry.1 entry.2).filter fun r => r.code.isSuccess).any test = true ↔
      o.SucceedsWith p := by
  simp only [Operation.SucceedsWith, StatusCode.isSuccessKey_iff, List.any_eq_true, List.mem_filter, List.mem_filterMap]
  constructor
  · rintro ⟨response, ⟨⟨entry, hentry, hresponse⟩, hsuccess⟩, hholds⟩
    have hschema := (htest _ _ _ hresponse).1 hholds
    obtain ⟨code, hcode, rfl⟩ := Option.map_eq_some_iff.1 hresponse
    exact ⟨entry, hentry, ⟨code, hcode, hsuccess⟩, hschema⟩
  · rintro ⟨entry, hentry, ⟨code, hcode, hsuccess⟩, hschema⟩
    obtain ⟨response, hresponse, hsame⟩ : ∃ response, d.response? entry.1 entry.2 = some response ∧
        response.code = code := ⟨_, Option.map_eq_some_iff.2 ⟨code, hcode, rfl⟩, rfl⟩
    rw [← hsame] at hsuccess
    exact ⟨response, ⟨⟨entry, hentry, hresponse⟩, hsuccess⟩, (htest _ _ _ hresponse).2 hschema⟩

/-- The mark of an endpoint says that a response of success is a session or lists sessions. -/
theorem returnsSession_endpointOf (path : String) (method : Method) (o : Operation) (id : Identifier)
    (shared : List ParameterDecl) :
    (d.endpointOf settings path method o id shared).returnsSession = true ↔
      o.SucceedsWith (d.IsSession settings) ∨ o.SucceedsWith (d.ListsSessions settings) := by
  have hmark : (d.endpointOf settings path method o id shared).returnsSession = true ↔
      o.SucceedsWith fun s => d.IsSession settings s ∨ d.ListsSessions settings s := by
    refine any_success_iff fun key r response hresponse => ?_
    obtain ⟨code, -, rfl⟩ := Option.map_eq_some_iff.1 hresponse
    simp only [beq_iff_eq, Option.bind_eq_some_iff, schemaRef?_eq_session_iff, Option.mem_def]
  rw [hmark]
  simp only [Operation.SucceedsWith, and_or_left, exists_or]

end Document

/-- An endpoint is marked as returning a session if a response of success is a session or lists
sessions, so that the mark says whether one is a session unless there are only lists. -/
theorem session_recognised_iff {d : Document} {settings : Settings} {path : String} {method : Method}
    {raw : Json.Value} {e : Endpoint} (h : d.endpoint settings path method raw = .ok e) :
    ∃ o, Operation.decode raw = .ok o ∧
      (e.returnsSession = true ↔
        o.SucceedsWith (d.IsSession settings) ∨ o.SucceedsWith (d.ListsSessions settings)) ∧
      ((e.returnsSession = true ↔ o.SucceedsWith (d.IsSession settings)) ↔
        (o.SucceedsWith (d.ListsSessions settings) → o.SucceedsWith (d.IsSession settings))) := by
  obtain ⟨o, id, shared, ho, -, rfl⟩ := Document.endpoint_eq_ok h
  refine ⟨o, ho, Document.returnsSession_endpointOf path method o id shared, ?_⟩
  rw [Document.returnsSession_endpointOf]
  exact or_iff_left_iff_imp

/-! ## Documents with one response -/

instance {key : String} : Decidable (StatusCode.IsSuccessKey key) :=
  decidable_of_iff _ StatusCode.isSuccessKey_iff.symm

instance {d : Document} {settings : Settings} : DecidablePred (d.IsSession settings) := fun _ =>
  decidable_of_iff _ Document.isSession_iff.symm

instance {o : Operation} {p : Schema → Prop} [DecidablePred p] : Decidable (o.SucceedsWith p) :=
  inferInstanceAs (Decidable (∃ entry ∈ o.responses, StatusCode.IsSuccessKey entry.1 ∧ ∃ s ∈ entry.2.schema, p s))

/-- A document with one operation, which has one response of a schema. -/
def responseText (schema : String) : String :=
  "\x7b\"paths\":\x7b\"/s\":\x7b\"get\":\x7b\"operationId\":\"S\",\"responses\":\x7b\"200\":\x7b\"schema\":" ++
    schema ++ "\x7d\x7d\x7d\x7d\x7d,\"definitions\":\x7b\"apiSession\":\x7b\x7d\x7d\x7d"

/-- A reference to the definition of sessions. -/
def sessionReference : String := "\x7b\"$ref\":\"#/definitions/apiSession\"\x7d"

/-- The operations of a document that has been resolved, by what can be computed of each. -/
theorem exists_operation (text : String) (settings : Settings) (p : Document → Operation → Endpoint → Prop)
    [∀ d o e, Decidable (p d o e)]
    (h : ((Document.ofText text).toOption.any fun d => d.operations.any fun operation =>
      (d.endpoint settings operation.1 operation.2.1 operation.2.2).toOption.any fun e =>
        (Operation.decode operation.2.2).toOption.any fun o => p d o e) = true) :
    ∃ d path method raw o e, Document.ofText text = .ok d ∧ d.endpoint settings path method raw = .ok e ∧
      Operation.decode raw = .ok o ∧ p d o e := by
  simp only [Option.any_eq_true, List.any_eq_true, decide_eq_true_eq, toOption_eq_some_iff] at h
  obtain ⟨d, hd, operation, -, e, he, o, ho, hp⟩ := h
  exact ⟨d, operation.1, operation.2.1, operation.2.2, o, e, hd, he, ho, hp⟩

/-- An operation whose response is a session. -/
theorem session_recognised_reference :
    ∃ d path method raw o e, Document.ofText (responseText sessionReference) = .ok d ∧
      d.endpoint {} path method raw = .ok e ∧ Operation.decode raw = .ok o ∧
      o.SucceedsWith (d.IsSession {}) ∧ e.returnsSession = true := by
  obtain ⟨d, path, method, raw, o, e, hd, he, ho, hsession⟩ :=
    exists_operation (responseText sessionReference) {} (fun d o _ => o.SucceedsWith (d.IsSession {}))
      (by decide +kernel)
  obtain ⟨o', ho', hmark, -⟩ := session_recognised_iff he
  obtain rfl : o = o' := Except.ok.inj (ho.symm.trans ho')
  exact ⟨d, path, method, raw, o, e, hd, he, ho, hsession, hmark.2 (.inl hsession)⟩

/-- An operation whose response is a list of sessions is marked too. -/
theorem session_list_marked :
    ∃ d path method raw o e,
      Document.ofText (responseText ("\x7b\"type\":\"array\",\"items\":" ++ sessionReference ++ "\x7d")) = .ok d ∧
      d.endpoint {} path method raw = .ok e ∧ Operation.decode raw = .ok o ∧
      ¬ o.SucceedsWith (d.IsSession {}) ∧ e.returnsSession = true :=
  exists_operation _ {} _ (by decide +kernel)

end LuaStubs.Api
