import LuaStubs.Proofs.Api.Inheritance
import LuaStubs.Proofs.Rest.Pieces
import LuaStubs.Proofs.Rest.Transport

/-!
# Bodies that refer to a definition

A body parameter whose schema refers to an object definition is flattened into
the properties of that definition, named and sorted as its constructor has them.
So a caller with no other body parameter takes the arguments of the constructor
and makes the same table of them (`body_eq_constructor`).
-/

namespace LuaStubs.Api.Document

variable {d : Document} {name reference : String} {object s : Schema} {p : ParameterDecl}

/-- A reference to a definition that is an object with properties is flattened into these properties. -/
theorem flatten_eq_properties (hobject : d.definition? name = some object)
    (hkind : object.kind = none ∨ object.kind = some "object") (hproperties : object.properties ≠ [])
    (hp : p.location = Location.body.name) (hs : p.schema = some s) (href : s.reference = some reference)
    (hname : referenceName reference = name) :
    d.flatten p = object.properties.map fun (key, property) => d.propertyParameter p object key property := by
  have hderef : ((d.referenced? s).map Prod.snd).getD s = object :=
    dereferences_iff.1 (.target href (hname ▸ hobject))
  rw [flatten, Location.ofName?_eq_some_iff.2 hp]
  simp only [bodyParameters, hs, hderef, isFlattened_iff.2 ⟨hkind, hproperties⟩, if_true]

end LuaStubs.Api.Document

namespace LuaStubs.Rest

open Api (Definition Document Endpoint Location Operation Parameter ParameterDecl Property Schema Settings)
open Template (Piece)

/-! ## Tables -/

/-- The lines of a table, each with a key and the argument that is its value. -/
def tablePieces (entries : List (String × String)) : List Piece :=
  entries.flatMap fun entry => [.text "\t\t[\"", .text entry.1, .text "\"] = ", .text entry.2, .text ",\n"]

/-- The text of these lines. -/
def tableText (entries : List (String × String)) : String :=
  String.join (entries.map fun entry => "\t\t[\"" ++ entry.1 ++ "\"] = " ++ entry.2 ++ ",\n")

theorem printPieces_tablePieces (entries : List (String × String)) :
    Template.printPieces (tablePieces entries) = (tableText entries).toList := by
  induction entries with
  | nil => rfl
  | cons entry entries ih =>
    rw [tablePieces, List.flatMap_cons, ← tablePieces, Template.printPieces_append, ih]
    simp [tableText, Piece.chars]

/-- The text of a table is in a module with what is before and behind it. -/
theorem tableText_infix {before behind : String} {entries : List (String × String)} {ps : List Piece}
    (h : ([.text before] ++ tablePieces entries ++ [.text behind]) <:+: ps) :
    (before ++ tableText entries ++ behind).toList <:+: Template.printPieces ps := by
  have hin := Template.printPieces_infix h
  rw [Template.printPieces_append, Template.printPieces_append, printPieces_tablePieces] at hin
  simpa [Piece.chars] using hin

/-- A body that is a table is encoded with a line for each field. -/
theorem infix_callerPieces_table {c : EndpointContext} (h : c.bodyFields ≠ []) :
    ([.text "\tpost_data = json.encode(\x7b\n"] ++ tablePieces (c.bodyFields.map fun a => (a.name, a.argument)) ++
      [.text "\t\x7d)\n"]) <:+: callerPieces c := by
  simpa [bodyTablePieces, tablePieces, List.flatMap_map] using infix_callerPieces_bodyTable h

/-- A constructor returns a table with a line for each property. -/
theorem infix_constructorPieces_table (c : DefinitionContext) :
    ([.text ")\n\treturn \x7b\n"] ++ tablePieces (c.properties.map fun q => (q.name, q.argument)) ++
      [.text "\t\x7d\nend\n"]) <:+: constructorPieces c := by
  have htable : tablePieces (c.properties.map fun q => (q.name, q.argument)) =
      c.properties.flatMap fun q => [.text "\t\t[\"", .text q.name, .text "\"] = ", .text q.argument, .text ",\n"] := by
    rw [tablePieces, List.flatMap_map]
  rw [htable]
  refine ⟨List.flatten [
    [.text "\n--- ", .text c.functionName, .text "\n-- ", .text c.description, .text "\n"],
    c.properties.flatMap fun q =>
      [.text "-- @param ", .text q.argument, .text " (", .text q.luaType, .text ") ", .text q.description,
       .text "\n"],
    [.function c.functionName, .text c.signature]], [], ?_⟩
  simp [constructorPieces]

/-! ## Bodies -/

/-- The body of the caller of an endpoint is made as the constructor of a definition makes a value: from the
same arguments, between those of the query and the fixed ones, as a table of the same lines. -/
structure MadeAs (e : Endpoint) (c : Definition) : Prop where
  arguments : (e.parametersIn .body).map Parameter.argument = c.properties.map Property.argument
  caller_signature : (EndpointContext.ofEndpoint e).signature = Text.commaSeparated
    ("client" :: (e.parametersIn .path ++ e.parametersIn .query).map Parameter.argument ++
      c.properties.map Property.argument ++ ["callback", "retry_policy", "cancellation_token"])
  constructor_signature :
    (DefinitionContext.ofDefinition c).signature = Text.commaSeparated (c.properties.map Property.argument)
  tables : ∃ caller constructor, renderEndpoint .builtin e = .ok caller ∧
    renderDefinition .builtin c = .ok constructor ∧
    ("\tpost_data = json.encode(\x7b\n" ++ tableText (c.properties.map fun q => (q.name, q.argument)) ++
      "\t\x7d)\n").toList <:+: caller.toList ∧
    (")\n\treturn \x7b\n" ++ tableText (c.properties.map fun q => (q.name, q.argument)) ++
      "\t\x7d\nend\n").toList <:+: constructor.toList

/-- What it takes: the parameters of the body are flattened and have the names and arguments of the
properties. -/
theorem MadeAs.of_flattened {e : Endpoint} {c : Definition} (hne : c.properties ≠ [])
    (hflattened : ∀ q ∈ e.parametersIn .body, q.flattenedFrom ≠ none)
    (hsame : (e.parametersIn .body).map (fun q => (q.name, q.argument)) =
      c.properties.map fun q => (q.name, q.argument)) : MadeAs e c := by
  have harguments : (e.parametersIn .body).map Parameter.argument = c.properties.map Property.argument := by
    have hsnd := congrArg (List.map Prod.snd) hsame
    simpa only [List.map_map, Function.comp_def] using hsnd
  have hvalue : EndpointContext.bodyParameter? e = none := by
    refine Option.eq_none_iff_forall_ne_some.2 fun q hq => ?_
    obtain ⟨honly, hfrom⟩ := EndpointContext.bodyParameter?_eq_some_iff.1 hq
    exact hflattened q (by simp [honly]) hfrom
  have hfields : (EndpointContext.ofEndpoint e).bodyFields = (e.parametersIn .body).map .ofParameter := by
    simp [EndpointContext.ofEndpoint, hvalue]
  have hnonempty : (EndpointContext.ofEndpoint e).bodyFields ≠ [] := by
    rw [hfields]
    intro hnil
    rw [List.map_eq_nil_iff.1 hnil] at hsame
    exact hne (List.map_eq_nil_iff.1 hsame.symm)
  refine ⟨harguments, ?_, rfl, _, _, renderEndpoint_builtin e, renderDefinition_builtin c, ?_, ?_⟩
  · simp only [EndpointContext.ofEndpoint, EndpointContext.argumentNames, e.orderedParameters_eq, List.map_append,
      harguments, List.cons_append, List.append_assoc]
  · have hentries : (EndpointContext.ofEndpoint e).bodyFields.map (fun a => (a.name, a.argument)) =
        c.properties.map fun q => (q.name, q.argument) := by
      rw [hfields, List.map_map, ← hsame]
      rfl
    rw [String.toList_ofList, ← hentries]
    exact tableText_infix (infix_callerPieces_table hnonempty)
  · have hentries : (DefinitionContext.ofDefinition c).properties.map (fun q => (q.name, q.argument)) =
        c.properties.map fun q => (q.name, q.argument) := by
      simp only [DefinitionContext.ofDefinition, List.map_map]
      rfl
    rw [String.toList_ofList, ← hentries]
    exact tableText_infix (infix_constructorPieces_table (.ofDefinition c))

/-- The parameters of a body that refers to an object definition are its properties: they have the same names,
arguments and categories, in the same order. If no other parameter travels in the body, the caller makes the
body as the constructor of the definition makes a value. -/
theorem body_eq_constructor {d : Document} {name reference : String} {object s : Schema} {p : ParameterDecl}
    (hobject : d.definition? name = some object) (hkind : object.kind = none ∨ object.kind = some "object")
    (hproperties : object.properties ≠ []) (hp : p.location = Location.body.name) (hs : p.schema = some s)
    (href : s.reference = some reference) (hname : Api.referenceName reference = name) :
    (d.flatten p).map (fun q => (q.name, q.argument, q.category)) =
      (d.definition name object).properties.map (fun q => (q.name, q.argument, q.category)) ∧
    ∀ (settings : Settings) (path : String) (method : Api.Method) (raw : Json.Value) (e : Endpoint) (o : Operation)
      (shared : List ParameterDecl), d.endpoint settings path method raw = .ok e →
      Operation.decode raw = .ok o → d.sharedParameters path = .ok shared →
      ((Api.inherited shared o.parameters ++ o.parameters).filter fun q => q.location = Location.body.name) = [p] →
      MadeAs e (d.definition name object) := by
  have hflatten := Document.flatten_eq_properties hobject hkind hproperties hp hs href hname
  refine ⟨?_, fun settings path method raw e o shared he ho hshared honly => ?_⟩
  · simp only [hflatten, Document.definition, List.map_map]
    rfl
  · obtain ⟨id, -, rfl⟩ := Document.endpoint_eq he ho hshared
    have hbody : (d.endpointOf settings path method o id shared).parametersIn .body = d.flatten p := by
      rw [Endpoint.parametersIn, Document.parameters_endpointOf, Document.filter_flatMap_flatten, honly,
        List.flatMap_singleton]
    refine .of_flattened (by simpa [Document.definition] using hproperties) ?_ ?_
    · rw [hbody, hflatten]
      intro q hq
      obtain ⟨⟨key, property⟩, -, rfl⟩ := List.mem_map.1 hq
      exact Option.some_ne_none _
    · rw [hbody, hflatten]
      simp only [Document.definition, List.map_map]
      rfl

/-- A definition with a property that refers to an enumeration, one that refers to nothing, a list and a
number. -/
def pet : Schema where
  properties :=
    [("kind", { reference := some "#/definitions/Kind" }), ("owner", { reference := some "#/definitions/Owner" }),
     ("tags", { kind := some "array", items := some { kind := some "string" } }), ("age", { kind := some "integer" })]

/-- A document with that definition and that enumeration. -/
def petDocument : Document := ⟨{}, [], [("Kind", { enumeration := [.string "CAT"] }), ("Pet", pet)], []⟩

/-- An operation whose body refers to the definition. -/
def addPet : Json.Value :=
  Api.rawOperation
    [.object [("name", .string "pet"), ("in", .string "body"),
      ("schema", .object [("$ref", .string "#/definitions/Pet")])],
     Api.rawParameter "id" "query" "string"]

theorem body_eq_constructor_pet :
    ∃ e, petDocument.endpoint {} "/p" .post addPet = .ok e ∧
      (petDocument.definition "Pet" pet).properties.map Property.argument =
        ["kind_string", "owner_table", "tags_table", "age_number"] ∧
      MadeAs e (petDocument.definition "Pet" pet) := by
  have hbody := body_eq_constructor (d := petDocument)
    (p := ⟨"pet", "body", none, false, none, some { reference := some "#/definitions/Pet" }⟩)
    rfl (.inl rfl) (by decide) rfl rfl rfl rfl
  exact ⟨_, rfl, rfl, hbody.2 {} "/p" .post addPet _ _ _ rfl rfl rfl rfl⟩

end LuaStubs.Rest
