import LuaStubs.Proofs.Api.Session
import LuaStubs.Proofs.Rest.Pieces

/-!
# Responses that a caller depends on

A caller depends on the schemas of the responses of success and on nothing else of
the responses: not on other responses, on descriptions or on the order
(`caller_eq_of_successSchemas`). Each mark of an endpoint is a test of these
schemas (`Operation.succeedsWith_iff`).
-/

namespace LuaStubs.Api

/-- The schemas of the responses of success. -/
def Operation.successSchemas (o : Operation) : List Schema :=
  (o.responses.filter fun entry => StatusCode.IsSuccessKey entry.1).filterMap fun entry => entry.2.schema

theorem Operation.succeedsWith_iff {o : Operation} {p : Schema → Prop} :
    o.SucceedsWith p ↔ ∃ s ∈ o.successSchemas, p s := by
  simp only [SucceedsWith, successSchemas, List.mem_filterMap, List.mem_filter, decide_eq_true_eq]
  constructor
  · rintro ⟨entry, hentry, hsuccess, s, hs, hp⟩
    exact ⟨s, ⟨entry, ⟨hentry, hsuccess⟩, hs⟩, hp⟩
  · rintro ⟨s, ⟨entry, ⟨hentry, hsuccess⟩, hs⟩, hp⟩
    exact ⟨entry, hentry, hsuccess, s, hs, hp⟩

/-- Operations with the same schemas of success succeed alike. -/
theorem Operation.succeedsWith_congr {o o' : Operation} (h : o.successSchemas.Perm o'.successSchemas)
    (p : Schema → Prop) : o'.SucceedsWith p ↔ o.SucceedsWith p := by
  simp only [succeedsWith_iff, h.mem_iff]

namespace Document

variable {d : Document} {settings : Settings}

/-- The mark of an authentication endpoint: it returns a session, or no response of success has a schema
and the id says so. -/
theorem isAuthentication_endpointOf (path : String) (method : Method) (o : Operation) (id : Identifier)
    (shared : List ParameterDecl) :
    (d.endpointOf settings path method o id shared).isAuthentication = true ↔
      (d.endpointOf settings path method o id shared).returnsSession = true ∨
        (¬ o.SucceedsWith fun _ => True) ∧ id.contains (normalize settings.authenticateToken) = true := by
  have hschema : ((o.responses.filterMap fun entry => d.response? entry.1 entry.2).filter fun r =>
      r.code.isSuccess).any (fun r => r.hasSchema) = true ↔ o.SucceedsWith fun _ => True := by
    refine any_success_iff fun key r response hresponse => ?_
    obtain ⟨code, -, rfl⟩ := Option.map_eq_some_iff.1 hresponse
    simp only [Option.isSome_iff_exists, Option.mem_def, and_true]
  rw [← hschema]
  simp [endpointOf]

/-- The endpoint of an operation with other responses, but the same schemas of success, differs in the
responses only. -/
theorem endpointOf_withResponses (path : String) (method : Method) {o : Operation} {responses : Entries ResponseDecl}
    (h : o.successSchemas.Perm { o with responses }.successSchemas) (id : Identifier) (shared : List ParameterDecl) :
    d.endpointOf settings path method { o with responses } id shared =
      { d.endpointOf settings path method o id shared with
        responses := responses.filterMap fun (key, r) => d.response? key r } := by
  have hcongr := Operation.succeedsWith_congr h
  have hsession : (d.endpointOf settings path method { o with responses } id shared).returnsSession =
      (d.endpointOf settings path method o id shared).returnsSession := by
    rw [Bool.eq_iff_iff, returnsSession_endpointOf, returnsSession_endpointOf, hcongr, hcongr]
  have hauthentication : (d.endpointOf settings path method { o with responses } id shared).isAuthentication =
      (d.endpointOf settings path method o id shared).isAuthentication := by
    rw [Bool.eq_iff_iff, isAuthentication_endpointOf, isAuthentication_endpointOf, hsession, hcongr]
  rw [Endpoint.mk.injEq]
  exact ⟨rfl, rfl, rfl, rfl, rfl, hauthentication, hsession, rfl⟩

end Document

end LuaStubs.Api

namespace LuaStubs.Rest

open Api (Document Endpoint Operation Settings)

/-- The function that calls an endpoint does not depend on the responses. -/
theorem renderEndpoint_withResponses {τ : Type} [Template.Engine τ] (templates : TemplateSet τ) (e : Endpoint)
    (responses : List Api.Response) : renderEndpoint templates { e with responses } = renderEndpoint templates e := rfl

/-- Of the responses, a caller depends on the schemas under the keys 200 to 299 only. Two operations that
differ in their responses, but have the same schemas there, in whatever order, have endpoints that differ
in the responses only, and so the same parameters, the same marks and the same text. -/
theorem caller_eq_of_successSchemas {d : Document} {settings : Settings} {path : String} {method : Api.Method}
    {raw raw' : Json.Value} {e e' : Endpoint} {o : Operation} {responses : Entries Api.ResponseDecl}
    (h : d.endpoint settings path method raw = .ok e) (h' : d.endpoint settings path method raw' = .ok e')
    (ho : Operation.decode raw = .ok o) (ho' : Operation.decode raw' = .ok { o with responses })
    (hsame : o.successSchemas.Perm { o with responses }.successSchemas) :
    e' = { e with responses := e'.responses } ∧
      e'.parameters = e.parameters ∧ e'.isAuthentication = e.isAuthentication ∧
      e'.returnsSession = e.returnsSession ∧
      (∀ (τ : Type) [Template.Engine τ] (templates : TemplateSet τ),
        renderEndpoint templates e' = renderEndpoint templates e) ∧
      ∃ text, renderEndpoint .builtin e = .ok text ∧ renderEndpoint .builtin e' = .ok text := by
  obtain ⟨o₁, id, shared, ho₁, hid, hshared, rfl⟩ := Document.endpoint_eq_ok_iff.1 h
  obtain rfl : o = o₁ := Except.ok.inj (ho.symm.trans ho₁)
  obtain ⟨id', hid', he'⟩ := Document.endpoint_eq h' ho' hshared
  -- The id is read off the operation, and the responses have no part in it.
  obtain rfl : id = id' := Option.some.inj (hid.symm.trans hid')
  rw [Document.endpointOf_withResponses path method hsame] at he'
  subst he'
  have htext := renderEndpoint_builtin (d.endpointOf settings path method o id shared)
  exact ⟨rfl, rfl, rfl, rfl, fun _ _ templates => renderEndpoint_withResponses templates _ _,
    _, htext, (renderEndpoint_withResponses .builtin _ _).trans htext⟩

/-- A document with a definition of sessions. -/
def sessionDocument : Document := ⟨{}, [], [("apiSession", {})], []⟩

/-- An operation with the given responses. -/
def loginOperation (responses : Entries Json.Value) : Json.Value :=
  .object [("operationId", .string "Login"), ("responses", .object responses)]

/-- A response whose schema refers to a definition. -/
def referringResponse (name : String) : Json.Value :=
  .object [("schema", .object [("$ref", .string name)])]

/-- Two operations that return a session under 200, written in two ways. What one says of failures, and of
what is no code, is that they are sessions too, or something unknown. -/
theorem caller_eq_of_successSchemas_session :
    ∃ e e', sessionDocument.endpoint {} "/l" .post (loginOperation [("200", referringResponse "apiSession")]) = .ok e ∧
      sessionDocument.endpoint {} "/l" .post (loginOperation
        [("default", referringResponse "apiSession"), ("2XX", referringResponse "apiRpc"), ("404", .object []),
         ("+0200", referringResponse "apiSession")]) = .ok e' ∧
      e.returnsSession = true ∧ e'.returnsSession = true ∧
      ∃ text, renderEndpoint .builtin e = .ok text ∧ renderEndpoint .builtin e' = .ok text := by
  have hsame := @caller_eq_of_successSchemas sessionDocument {} "/l" .post
    (loginOperation [("200", referringResponse "apiSession")])
    (loginOperation
      [("default", referringResponse "apiSession"), ("2XX", referringResponse "apiRpc"), ("404", .object []),
       ("+0200", referringResponse "apiSession")])
    _ _ _ _ rfl rfl rfl rfl (.of_eq rfl)
  exact ⟨_, _, rfl, rfl, rfl, rfl, hsame.2.2.2.2.2⟩

end LuaStubs.Rest
