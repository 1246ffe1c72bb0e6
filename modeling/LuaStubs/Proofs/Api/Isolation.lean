import LuaStubs.Proofs.Api.Resolution
import LuaStubs.Proofs.Json.Equality

/-!
# What an operation depends on

What becomes of an operation depends on its own declaration, on the definitions that
are found by their names and on the shared parameters of its path item, and on nothing
else (`outcome_congr`). So a document is resolved like another one around the value
of one method key (`operations_fill`, `sharedParameters_fill`), and around a path
item that is added to it (`sharedParameters_insert`).
-/

namespace LuaStubs.Api

open Json (Value)

deriving instance DecidableEq for Outline

namespace Document

variable {d d' : Document}

/-! ## Dependencies -/

theorem definition?_congr (hdefinitions : d'.definitions = d.definitions) : d'.definition? = d.definition? := by
  funext name
  rw [definition?, definition?, hdefinitions]

section Lookup

-- Two documents whose definitions are found alike.
variable (h : d'.definition? = d.definition?)

include h

theorem referenced?_congr : d'.referenced? = d.referenced? := by
  funext s
  rw [referenced?_eq, referenced?_eq, h]

theorem category_congr : d'.category = d.category := by
  funext s
  rw [category, category, referenced?_congr h]

theorem schemaRef?_congr : d'.schemaRef? = d.schemaRef? := by
  funext s
  rw [schemaRef?, schemaRef?, referenced?_congr h]

theorem flatten_congr : d'.flatten = d.flatten := by
  funext p
  simp only [flatten, bodyParameters, propertyParameter, referenced?_congr h, category_congr h]

theorem response?_congr : d'.response? = d.response? := by
  funext key r
  rw [response?, response?, schemaRef?_congr h, category_congr h]

/-- An endpoint is made with look-ups of definitions, and with no other part of its document. -/
theorem endpointOf_congr : d'.endpointOf = d.endpointOf := by
  funext settings path method o id shared
  rw [endpointOf, endpointOf, flatten_congr h, response?_congr h]

theorem definition_congr : d'.definition = d.definition := by
  funext name s
  simp only [definition, property, category_congr h, schemaRef?_congr h]

/-- An operation comes out alike where its path item shares the same parameters. -/
theorem outcome_congr {operation : String × Method × Value}
    (hshared : d'.sharedParameters operation.1 = d.sharedParameters operation.1) (settings : Settings) :
    d'.outcome settings operation = d.outcome settings operation := by
  have hendpoint : d'.endpoint settings operation.1 operation.2.1 operation.2.2 =
      d.endpoint settings operation.1 operation.2.1 operation.2.2 := by
    rw [endpoint, endpoint, hshared, endpointOf_congr h]
  rw [outcome, outcome, resolveEndpoint, resolveEndpoint, hendpoint]

end Lookup

theorem map_outcome_congr (hdefinitions : d'.definitions = d.definitions) {operations : List (String × Method × Value)}
    (hshared : ∀ operation ∈ operations, d'.sharedParameters operation.1 = d.sharedParameters operation.1)
    (settings : Settings) : operations.map (d'.outcome settings) = operations.map (d.outcome settings) :=
  List.map_congr_left fun operation h =>
    outcome_congr (definition?_congr hdefinitions) (hshared operation h) settings

/-- The shared parameters of a path are those of the values under its item's key for them. -/
theorem sharedParameters_congr {path : String}
    (h : (d'.paths.get? path).bind (Entries.get? "parameters") = (d.paths.get? path).bind (Entries.get? "parameters")) :
    d'.sharedParameters path = d.sharedParameters path := by
  rw [sharedParameters, sharedParameters, h]

end Document

/-! ## Operations of path items -/

/-- The operations that a path item declares. -/
def itemOperations (path : String) (item : Entries Value) : List (String × Method × Value) :=
  item.filterMap fun (key, raw) => (Method.ofKey? key).map fun method => (path, method, raw)

/-- The operations that path items declare. -/
def operationsIn (paths : Entries (Entries Value)) : List (String × Method × Value) :=
  paths.flatMap fun (path, item) => itemOperations path item

theorem operations_eq (d : Document) : d.operations = operationsIn d.paths := rfl

theorem operationsIn_append (ps qs : Entries (Entries Value)) :
    operationsIn (ps ++ qs) = operationsIn ps ++ operationsIn qs :=
  List.flatMap_append

theorem operationsIn_cons (path : String) (item : Entries Value) (ps : Entries (Entries Value)) :
    operationsIn ((path, item) :: ps) = itemOperations path item ++ operationsIn ps := rfl

theorem itemOperations_append (path : String) (xs ys : Entries Value) :
    itemOperations path (xs ++ ys) = itemOperations path xs ++ itemOperations path ys :=
  List.filterMap_append

theorem itemOperations_cons {path key : String} {method : Method} (hkey : Method.ofKey? key = some method)
    (raw : Value) (item : Entries Value) :
    itemOperations path ((key, raw) :: item) = (path, method, raw) :: itemOperations path item := by
  simp only [itemOperations, List.filterMap_cons, hkey, Option.map_some]

/-- An operation has the path of an item. -/
theorem mem_keys_of_mem_operationsIn {operation : String × Method × Value} {ps : Entries (Entries Value)}
    (h : operation ∈ operationsIn ps) : operation.1 ∈ ps.keys := by
  obtain ⟨⟨path, item⟩, hitem, hop⟩ := List.mem_flatMap.1 h
  obtain ⟨⟨key, raw⟩, -, hkey⟩ := List.mem_filterMap.1 hop
  obtain ⟨method, -, rfl⟩ := Option.map_eq_some_iff.1 hkey
  exact List.mem_map_of_mem hitem

/-- Every operation is an endpoint or a skip, and both are called after it. -/
def Accounted (operations : List (String × Method × Value)) (made : List Endpoint) (skips : List Skip) : Prop :=
  Accounts (fun operation e => e.path = operation.1 ∧ e.method = operation.2.1)
    (fun operation s => s.kind = .endpoint ∧ s.name = operation.2.1.name ++ " " ++ operation.1) operations made skips

theorem accounted_outcomes (d : Document) (settings : Settings) (operations : List (String × Method × Value)) :
    Accounted operations (successes (operations.map (d.outcome settings)))
      (failures (operations.map (d.outcome settings))) :=
  .of_outcomes _ (fun _ _ => Document.outcome_ok) (fun _ _ => Document.outcome_error) operations

/-! ## One value of a path item -/

/-- An outline without the value under one key of one path item. -/
structure Gap where
  info : Info
  definitions : Entries Value
  /-- The path items before the one with the gap. -/
  before : Entries (Entries Value)
  path : String
  /-- The entries of the path item before the gap. -/
  itemBefore : Entries Value
  key : String
  /-- The entries of the path item behind the gap. -/
  itemAfter : Entries Value
  /-- The path items behind the one with the gap. -/
  after : Entries (Entries Value)

namespace Gap

variable (g : Gap)

/-- The outline with a value in the gap. -/
def fill (raw : Value) : Outline where
  info := g.info
  paths := g.before ++ (g.path, g.itemBefore ++ (g.key, raw) :: g.itemAfter) :: g.after
  definitions := g.definitions

/-- The operations before the gap. -/
def operationsBefore : List (String × Method × Value) :=
  operationsIn g.before ++ itemOperations g.path g.itemBefore

/-- The operations behind the gap. -/
def operationsAfter : List (String × Method × Value) :=
  itemOperations g.path g.itemAfter ++ operationsIn g.after

/-- The operation in the gap is one of the document, between the others. -/
theorem operations_fill {method : Method} (hkey : Method.ofKey? g.key = some method) (raw : Value) :
    (Document.ofOutline (g.fill raw)).operations =
      g.operationsBefore ++ [(g.path, method, raw)] ++ g.operationsAfter := by
  rw [operations_eq, Document.ofOutline, fill]
  dsimp only
  rw [operationsIn_append, operationsIn_cons, itemOperations_append, itemOperations_cons hkey, operationsBefore,
    operationsAfter]
  simp only [List.append_assoc, List.cons_append, List.nil_append]

/-- Under a key other than that of the shared parameters, a value has no part in them. -/
theorem sharedParameters_fill (hkey : g.key ≠ "parameters") (raw raw' : Value) (path : String) :
    (Document.ofOutline (g.fill raw')).sharedParameters path =
      (Document.ofOutline (g.fill raw)).sharedParameters path := by
  have hitem : ∀ v : Value, Entries.get? "parameters" (g.itemBefore ++ (g.key, v) :: g.itemAfter) =
      Entries.get? "parameters" (g.itemBefore ++ g.itemAfter) := by
    intro v
    have hne : ("parameters" == g.key) = false := beq_false_of_ne (Ne.symm hkey)
    simp only [Entries.get?, List.lookup_append, List.lookup_cons, hne]
  apply Document.sharedParameters_congr
  simp only [Document.ofOutline, fill, Entries.get?, List.lookup_append, List.lookup_cons]
  cases hpath : path == g.path with
  | false => rfl
  | true =>
    cases hbefore : g.before.lookup path with
    | some item => rfl
    | none => exact (hitem raw').trans (hitem raw).symm

end Gap

/-! ## Parts of a document -/

/-- The operations of a document in three parts, each with what becomes of it. -/
theorem Document.resolve_append {d : Document} {before middle after : List (String × Method × Value)}
    (h : d.operations = before ++ middle ++ after) (settings : Settings) : d.resolve settings = .ok {
      endpoints := successes (before.map (d.outcome settings)) ++ successes (middle.map (d.outcome settings)) ++
        successes (after.map (d.outcome settings))
      definitions := d.definitions.map fun (name, s) => d.definition name s
      skipped := failures (before.map (d.outcome settings)) ++ failures (middle.map (d.outcome settings)) ++
        failures (after.map (d.outcome settings)) ++ d.rejected.map rejection } := by
  rw [resolve_eq, h]
  simp only [successes, failures, List.map_append, List.filterMap_append]

/-! ## One more path item -/

/-- A path item that is added to others has no part in their shared parameters. -/
theorem sharedParameters_insert {d d' : Document} {before after : Entries (Entries Value)} {path : String}
    {item : Entries Value} (hd : d.paths = before ++ after) (hd' : d'.paths = before ++ (path, item) :: after)
    {other : String} (hother : other ≠ path) : d'.sharedParameters other = d.sharedParameters other := by
  have hne : (other == path) = false := beq_false_of_ne hother
  apply Document.sharedParameters_congr
  rw [hd, hd']
  simp only [Entries.get?, List.lookup_append, List.lookup_cons, hne]

/-- What the operations beside an added path item come to is what they come to without it. -/
theorem map_outcome_insert {d d' : Document} {before after ps : Entries (Entries Value)} {path : String}
    {item : Entries Value} (hd : d.paths = before ++ after) (hd' : d'.paths = before ++ (path, item) :: after)
    (hdefinitions : d'.definitions = d.definitions) (hpath : path ∉ d.paths.keys) (hps : ps.keys ⊆ d.paths.keys)
    (settings : Settings) :
    (operationsIn ps).map (d'.outcome settings) = (operationsIn ps).map (d.outcome settings) := by
  apply Document.map_outcome_congr hdefinitions
  intro operation hoperation
  apply sharedParameters_insert hd hd'
  rintro rfl
  exact hpath (hps (mem_keys_of_mem_operationsIn hoperation))

/-- A path item under a new key is resolved between the others, which are resolved as before. -/
theorem resolve_insert (d d' : Document) {before after : Entries (Entries Value)} {path : String} {item : Entries Value}
    (hd : d.paths = before ++ after) (hd' : d'.paths = before ++ (path, item) :: after)
    (hdefinitions : d'.definitions = d.definitions) (hrejected : d'.rejected = d.rejected) (hpath : path ∉ d.paths.keys)
    (settings : Settings) :
    ∃ (endpoints endpoints' made : List Endpoint) (skips skips' added definitionSkips : List Skip)
      (definitions : List Definition),
      Accounted (operationsIn before) endpoints skips ∧ Accounted (operationsIn after) endpoints' skips' ∧
      Accounted (itemOperations path item) made added ∧
      d.resolve settings = .ok ⟨endpoints ++ endpoints', definitions, skips ++ skips' ++ definitionSkips⟩ ∧
      d'.resolve settings =
        .ok ⟨endpoints ++ made ++ endpoints', definitions, skips ++ added ++ skips' ++ definitionSkips⟩ := by
  have hkeys : before.keys ⊆ d.paths.keys ∧ after.keys ⊆ d.paths.keys := by
    rw [hd, Entries.keys, Entries.keys, Entries.keys, List.map_append]
    exact ⟨List.subset_append_left _ _, List.subset_append_right _ _⟩
  have hoperations : d.operations = operationsIn before ++ [] ++ operationsIn after := by
    rw [operations_eq, hd, operationsIn_append, List.append_nil]
  have hoperations' : d'.operations = operationsIn before ++ itemOperations path item ++ operationsIn after := by
    rw [operations_eq, hd', operationsIn_append, operationsIn_cons, List.append_assoc]
  have hr := Document.resolve_append hoperations settings
  have hr' := Document.resolve_append hoperations' settings
  rw [map_outcome_insert hd hd' hdefinitions hpath hkeys.1, map_outcome_insert hd hd' hdefinitions hpath hkeys.2,
    Document.definition_congr (Document.definition?_congr hdefinitions), hdefinitions, hrejected] at hr'
  refine ⟨_, _, _, _, _, _, _, _, accounted_outcomes d settings _, accounted_outcomes d settings _,
    accounted_outcomes d' settings _, ?_, hr'⟩
  rw [hr]
  simp only [List.map_nil, successes, failures, List.filterMap_nil, List.append_nil]

end LuaStubs.Api
