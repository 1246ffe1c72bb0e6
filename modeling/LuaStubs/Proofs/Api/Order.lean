import LuaStubs.Proofs.Api.Definitions

/-!
# The order of definitions

Resolution finds a definition by its name, wherever it stands, and never by what has
been resolved before. So two documents with the same paths, and with the same
definitions in different orders, have the same endpoints and skip the same
operations, and each definition comes to the same in both (`resolve_reordered`).
-/

namespace LuaStubs.Api.Document

open Json (Value)

/-! ## One definition -/

/-- What becomes of a declared definition. -/
def definitionOutcome (d : Document) (entry : String × Value) : Except Skip Definition :=
  match Schema.decode entry.2 with
  | .ok s => .ok (d.definition entry.1 s)
  | .error fault => .error (rejection (entry.1, fault))

theorem definitionOutcome_congr {d d' : Document} (h : d'.definition? = d.definition?) :
    d'.definitionOutcome = d.definitionOutcome := by
  funext entry
  rw [definitionOutcome, definitionOutcome, definition_congr h]

theorem definitions_eq_successes (d : Document) (declared : Entries Value) :
    ((acceptedIn declared).map fun (name, s) => d.definition name s) =
      successes (declared.map d.definitionOutcome) := by
  induction declared with
  | nil => rfl
  | cons entry rest ih =>
    rw [acceptedIn, List.map_cons, definitionOutcome]
    cases Schema.decode entry.2 with
    | ok s => rw [List.map_cons, ih, successes_ok]
    | error fault => rw [ih, successes_error]

theorem rejections_eq_failures (d : Document) (declared : Entries Value) :
    (rejectedIn declared).map rejection = failures (declared.map d.definitionOutcome) := by
  induction declared with
  | nil => rfl
  | cons entry rest ih =>
    rw [rejectedIn, List.map_cons, definitionOutcome]
    cases Schema.decode entry.2 with
    | ok s => rw [ih, failures_ok]
    | error fault => rw [List.map_cons, ih, failures_error]

/-! ## Two orders -/

section Reordered

variable {o o' : Outline}

/-- A definition is found wherever it stands. -/
theorem definition?_reordered (hperm : o'.definitions.Perm o.definitions) (hnodup : o.definitions.keys.Nodup) :
    (ofOutline o').definition? = (ofOutline o).definition? := by
  have haccepted : (acceptedIn o'.definitions).Perm (acceptedIn o.definitions) := by
    rw [acceptedIn_eq_successes, acceptedIn_eq_successes]
    exact successes_perm (hperm.map asSchema)
  funext name
  exact Entries.get?_perm haccepted (hnodup.sublist (keys_acceptedIn_sublist _)) name

theorem resolve_ofOutline (o : Outline) (settings : Settings) : (ofOutline o).resolve settings = .ok {
    endpoints := successes ((operationsIn o.paths).map ((ofOutline o).outcome settings))
    definitions := successes (o.definitions.map (ofOutline o).definitionOutcome)
    skipped := failures ((operationsIn o.paths).map ((ofOutline o).outcome settings)) ++
      failures (o.definitions.map (ofOutline o).definitionOutcome) } := by
  rw [resolve_eq, ← definitions_eq_successes, ← rejections_eq_failures]
  rfl

/-- Operations come out alike with the definitions in another order. -/
theorem map_outcome_reordered (hpaths : o'.paths = o.paths)
    (hlookup : (ofOutline o').definition? = (ofOutline o).definition?) (settings : Settings) :
    (operationsIn o'.paths).map ((ofOutline o').outcome settings) =
      (operationsIn o.paths).map ((ofOutline o).outcome settings) := by
  rw [hpaths]
  refine List.map_congr_left fun operation _ => outcome_congr hlookup (sharedParameters_congr ?_) settings
  rw [ofOutline, ofOutline, hpaths]

end Reordered

/-- Two texts with the same paths, and with the same definitions in different orders, resolve alike: references
lead to the same definitions, the endpoints are the same and the same operations are skipped, and every
definition comes to the same in its place. -/
theorem resolve_reordered {text text' : String} {o o' : Outline} (ho : Outline.ofText text = .ok o)
    (ho' : Outline.ofText text' = .ok o') (hpaths : o'.paths = o.paths)
    (hdefinitions : o'.definitions.Perm o.definitions) (settings : Settings) :
    ∃ d d' endpoints skips r r', ofText text = .ok d ∧ ofText text' = .ok d' ∧
      d.resolve settings = .ok r ∧ d'.resolve settings = .ok r' ∧
      d'.referenced? = d.referenced? ∧ d'.category = d.category ∧ d'.schemaRef? = d.schemaRef? ∧
      d'.flatten = d.flatten ∧ d'.definitionOutcome = d.definitionOutcome ∧
      Accounted d.operations endpoints skips ∧
      r = ⟨endpoints, successes (o.definitions.map d.definitionOutcome),
        skips ++ failures (o.definitions.map d.definitionOutcome)⟩ ∧
      r' = ⟨endpoints, successes (o'.definitions.map d.definitionOutcome),
        skips ++ failures (o'.definitions.map d.definitionOutcome)⟩ ∧
      r'.definitions.Perm r.definitions ∧ r'.skipped.Perm r.skipped := by
  have hlookup := definition?_reordered hdefinitions (Outline.nodup_keys_definitions ho)
  have hd : ofText text = .ok (ofOutline o) := map_eq_ok_iff.2 ⟨o, ho, rfl⟩
  have hd' : ofText text' = .ok (ofOutline o') := map_eq_ok_iff.2 ⟨o', ho', rfl⟩
  have hr := resolve_ofOutline o settings
  have hr' := resolve_ofOutline o' settings
  rw [map_outcome_reordered hpaths hlookup, definitionOutcome_congr hlookup] at hr'
  have houtcomes := hdefinitions.map (ofOutline o).definitionOutcome
  exact ⟨_, _, _, _, _, _, hd, hd', hr, hr', referenced?_congr hlookup, category_congr hlookup,
    schemaRef?_congr hlookup, flatten_congr hlookup, definitionOutcome_congr hlookup, accounted_outcomes _ settings _,
    rfl, rfl, successes_perm houtcomes, (failures_perm houtcomes).append_left _⟩

/-- A document with two definitions, given by their texts, and an operation. -/
def pairText (first second : String) : String :=
  "\x7b\"definitions\":\x7b" ++ first ++ "," ++ second ++
    "\x7d,\"paths\":\x7b\"/\":\x7b\"get\":\x7b\"operationId\":\"g\"\x7d\x7d\x7d\x7d"

/-- What a document with two definitions and an operation declares. -/
def pairOutline (first second : String × Value) : Outline where
  paths := [("/", [("get", .object [("operationId", .string "g")])])]
  definitions := [first, second]

/-- A definition that refers to the next one. -/
def forwardText : String := pairText "\"a\":\x7b\"items\":\x7b\"$ref\":\"b\"\x7d\x7d" "\"b\":\x7b\"$ref\":\"a\"\x7d"

/-- The same definitions, which also refer back, in the other order. -/
def backwardText : String := pairText "\"b\":\x7b\"$ref\":\"a\"\x7d" "\"a\":\x7b\"items\":\x7b\"$ref\":\"b\"\x7d\x7d"

/-- Two definitions that refer to each other, in both orders. -/
theorem resolve_reordered_mutual :
    ∃ a b, Outline.ofText forwardText = .ok (pairOutline a b) ∧ Outline.ofText backwardText = .ok (pairOutline b a) ∧
      ∃ d d' r r', ofText forwardText = .ok d ∧ ofText backwardText = .ok d' ∧
        d.resolve {} = .ok r ∧ d'.resolve {} = .ok r' ∧ r'.endpoints = r.endpoints ∧
        r.definitions.map Definition.rawName = ["a", "b"] ∧ r'.definitions = r.definitions.reverse := by
  let a : String × Value := ("a", .object [("items", .object [("$ref", .string "b")])])
  let b : String × Value := ("b", .object [("$ref", .string "a")])
  have ho : Outline.ofText forwardText = .ok (pairOutline a b) := by decide +kernel
  have ho' : Outline.ofText backwardText = .ok (pairOutline b a) := by decide +kernel
  obtain ⟨d, d', endpoints, skips, r, r', hd, hd', hr, hr', -, -, -, -, -, -, rfl, rfl, -, -⟩ :=
    resolve_reordered ho ho' rfl (.swap a b []) {}
  exact ⟨a, b, ho, ho', d, d', _, _, hd, hd', hr, hr', rfl, rfl, rfl⟩

end LuaStubs.Api.Document
