import LuaStubs.Proofs.Generator.Realtime
import LuaStubs.Proofs.Generator.Rest
import LuaStubs.Proofs.Report

/-!
# Names assigned more than once

A report calls the names repeated that were generated more than once
(`mem_repeatedNames_iff`). These are not quite the names that the module assigns
more than once: the skeleton and the constants of enumerations are assigned but
not reported as generated, and an enumeration is reported by a name that is not
assigned. `collisions_iff_assigned` says which names are reported rightly.
-/

namespace LuaStubs

open Api (Definition Document Endpoint)
open Template (assigned printPieces)

/-! ## Names in the realtime module -/

namespace Realtime

theorem skeletonNames_nodup : skeletonNames.Nodup := by decide_cbv

/-- The skeleton assigns a name at most once, the senders and the hooks as often as they have it. -/
theorem count_assigned_modulePieces (messages : List Proto.Message) (events : List Proto.Event) (n : String) :
    (assigned (modulePieces messages events)).count n =
      (if n ∈ skeletonNames then 1 else 0) +
        (messages.map (fun m => m.key.text) ++ events.map Proto.Event.hook).count n := by
  rw [(assigned_modulePieces messages events).count_eq, List.count_append, skeletonNames_nodup.count]

end Realtime

/-! ## Names in the REST module -/

namespace Rest

/-- The names that enumerations are reported by. -/
def enumerationNames (definitions : List Definition) : List String :=
  (definitions.filter Definition.hasEnumeration).map fun d => d.name.text

/-- A definition is reported as an enumeration, or by its constructor, or not at all. -/
theorem generatedNames_perm (definitions : List Definition) :
    (definitions.filterMap Definition.generatedName?).Perm
      (enumerationNames definitions ++ constructorNames definitions) := by
  induction definitions with
  | nil => exact .refl _
  | cons d ds ih =>
    rw [enumerationNames, constructorNames] at ih ⊢
    rw [List.filterMap_cons, Definition.generatedName?]
    cases he : d.hasEnumeration with
    | true => simpa [he, isConstructed] using ih
    | false =>
      cases hp : d.hasProperties with
      | true => simpa [he, hp, isConstructed] using (ih.cons _).trans List.perm_middle.symm
      | false => simpa [he, hp, isConstructed] using ih

theorem map_name_restGenerated (definitions : List Definition) (endpoints : List Endpoint) :
    (Generator.restGenerated definitions endpoints).map Generated.name =
      definitions.filterMap Definition.generatedName? ++ endpoints.map fun e => e.operationId.text := by
  simp [Generator.restGenerated, List.map_filterMap, Option.map_map, Function.comp_def]

/-- The functions of a module are both reported and assigned. Beside them the enumerations are reported. -/
theorem count_restGenerated (definitions : List Definition) (endpoints : List Endpoint) (n : String) :
    ((Generator.restGenerated definitions endpoints).map Generated.name).count n =
      (enumerationNames definitions).count n +
        (constructorNames definitions ++ endpoints.map fun e => e.operationId.text).count n := by
  rw [map_name_restGenerated, List.count_append, (generatedNames_perm definitions).count_eq, List.count_append,
    List.count_append, Nat.add_assoc]

/-- Beside the functions the skeleton and the constants are assigned. -/
theorem count_assigned_modulePieces (endpoints : List Endpoint) (definitions : List Definition) (info : Api.Info)
    (n : String) :
    (assigned (modulePieces endpoints definitions info)).count n =
      (skeletonNames ++ constantNames definitions).count n +
        (constructorNames definitions ++ endpoints.map fun e => e.operationId.text).count n := by
  rw [assigned_modulePieces, ← List.append_assoc, List.count_append]

end Rest

/-! ## Reports -/

namespace Generator

theorem mem_collisions_of {content n : String} {surface : Surface} {generated : List Generated} {skipped : List Skip} :
    n ∈ (Generation.of content surface generated skipped).report.collisions ↔
      2 ≤ (generated.map Generated.name).count n :=
  mem_repeatedNames_iff

/-- What the messages and the events of a manifest add to a report, by their names. -/
theorem map_name_realtimeGenerated (realtime : Proto.Document) (messages : List MessageEntry)
    (events : List EventEntry) :
    ((messages.map fun e => (⟨.message, normalize e.name⟩ : Generated)) ++
        events.map fun e => (⟨.event, "on_" ++ normalize e.name⟩ : Generated)).map Generated.name =
      (messages.map (sentMessage realtime)).map (fun x => x.key.text) ++
        (events.map fun e => .ofName e.name).map Proto.Event.hook := by
  rw [List.map_append, List.map_map, List.map_map, List.map_map, List.map_map]
  rfl

/-- Which names a report is right about, that is, reports as collisions just if the module assigns
them more than once. In the realtime module these are all names but those of the skeleton that are
generated once. In the REST module a name of several functions is reported and assigned again. The
report is right about the name of one function if an enumeration is reported by that name just if the
skeleton or a constant has it too; and about other names, if the enumerations have it more than once
just if the skeleton and the constants do. -/
theorem collisions_iff_assigned {m : Manifest} (h : m.problem? = none) :
    (∀ realtimeText apiText : String,
      let realtime := Proto.Document.ofText realtimeText
      let api := Proto.Document.ofText apiText
      let pieces := Realtime.modulePieces ((keptMessages realtime m).map (sentMessage realtime))
        ((keptEvents realtime api m).map fun e => .ofName e.name)
      ∃ gen, (Generator.mk m .builtin h).realtime realtimeText apiText = .ok gen ∧
        gen.content = String.ofList (printPieces pieces) ∧
        ∀ n, (n ∈ gen.report.collisions ↔ 2 ≤ (assigned pieces).count n) ↔
          (n ∈ Realtime.skeletonNames → (gen.report.generated.map Generated.name).count n ≠ 1)) ∧
    ∀ (text : String) (d : Document), Document.ofText text = .ok d →
      ∃ r gen, d.resolve m.settings = .ok r ∧ (Generator.mk m .builtin h).rest text = .ok gen ∧
        let pieces := Rest.modulePieces r.endpoints r.definitions d.info
        let functions := Rest.constructorNames r.definitions ++ r.endpoints.map fun e => e.operationId.text
        let unreported := Rest.skeletonNames ++ Rest.constantNames r.definitions
        let unassigned := Rest.enumerationNames r.definitions
        gen.content = String.ofList (printPieces pieces) ∧
        ∀ n, (n ∈ gen.report.collisions ↔ 2 ≤ (assigned pieces).count n) ↔
          (functions.count n = 1 → (n ∈ unassigned ↔ n ∈ unreported)) ∧
          (functions.count n = 0 → (2 ≤ unassigned.count n ↔ 2 ≤ unreported.count n)) := by
  refine ⟨fun realtimeText apiText => ?_, fun text d hd => ?_⟩
  · have hrun := realtime_builtin h realtimeText apiText
    generalize Proto.Document.ofText realtimeText = realtime, Proto.Document.ofText apiText = api at hrun ⊢
    refine ⟨_, hrun, rfl, fun n => ?_⟩
    rw [mem_collisions_of, Generation.of, Report.detectCollisions, map_name_realtimeGenerated realtime,
      Realtime.count_assigned_modulePieces]
    by_cases hn : n ∈ Realtime.skeletonNames
    · simp only [hn, if_true, true_imp_iff]
      omega
    · simp only [hn, if_false, false_imp_iff, Nat.zero_add]
  · obtain ⟨r, hr⟩ : ∃ r, d.resolve m.settings = .ok r := ⟨_, Document.resolve_eq d m.settings⟩
    refine ⟨r, _, hr, rest_builtin h hd hr, ?_⟩
    intro pieces functions unreported unassigned
    refine ⟨rfl, fun n => ?_⟩
    have hreported : ((restGenerated r.definitions r.endpoints).map Generated.name).count n =
      unassigned.count n + functions.count n := Rest.count_restGenerated ..
    have hassigned : (assigned pieces).count n = unreported.count n + functions.count n :=
      Rest.count_assigned_modulePieces ..
    rw [mem_collisions_of, hreported, hassigned, ← List.one_le_count_iff, ← List.one_le_count_iff]
    omega

/-- A document with an operation that is called as the constructor of a definition is. -/
def pairText : String :=
  "\x7b\"paths\":\x7b\"/p\":\x7b\"get\":\x7b\"operationId\":\"CreateP\"\x7d\x7d\x7d," ++
  "\"definitions\":\x7b\"p\":\x7b\"properties\":\x7b\"q\":\x7b\x7d\x7d\x7d\x7d\x7d"

/-- Both reports are right: about a message that is declared, and about a constructor and a caller of one
name, which is reported and assigned twice. -/
theorem collisions_iff_assigned_ping :
    pingManifest.problem? = none ∧
    (∃ gen, (Generator.mk pingManifest .builtin (by decide)).realtime "message Ping \x7b\n\x7d" "" = .ok gen ∧
      ("ping" ∈ gen.report.collisions ↔
        2 ≤ (assigned (Realtime.modulePieces
          ((keptMessages (.ofText "message Ping \x7b\n\x7d") pingManifest).map
            (sentMessage (.ofText "message Ping \x7b\n\x7d")))
          ((keptEvents (.ofText "message Ping \x7b\n\x7d") (.ofText "") pingManifest).map fun e =>
            .ofName e.name))).count "ping")) ∧
    ∃ d r gen, Document.ofText pairText = .ok d ∧ d.resolve pingManifest.settings = .ok r ∧
      (Generator.mk pingManifest .builtin (by decide)).rest pairText = .ok gen ∧
      "create_p" ∈ gen.report.collisions ∧
      2 ≤ (assigned (Rest.modulePieces r.endpoints r.definitions d.info)).count "create_p" := by
  obtain ⟨hrealtime, hrest⟩ := collisions_iff_assigned (m := pingManifest) (by decide)
  obtain ⟨gen, hgen, -, hping⟩ := hrealtime "message Ping \x7b\n\x7d" ""
  obtain ⟨d, r, hd, hr, hfunctions⟩ : ∃ d r, Document.ofText pairText = .ok d ∧
      d.resolve pingManifest.settings = .ok r ∧
      (Rest.constructorNames r.definitions ++ r.endpoints.map fun e => e.operationId.text) = ["create_p", "create_p"] :=
    Document.exists_resolved (by decide +kernel)
  obtain ⟨r', gen', hr', hgen', -, hreport⟩ := hrest pairText d hd
  obtain rfl : r = r' := Except.ok.inj (hr.symm.trans hr')
  have hcount : (Rest.constructorNames r.definitions ++ r.endpoints.map fun e => e.operationId.text).count
      "create_p" = 2 := by
    rw [hfunctions]
    decide
  have hassigned : 2 ≤ (assigned (Rest.modulePieces r.endpoints r.definitions d.info)).count "create_p" := by
    rw [Rest.count_assigned_modulePieces, hcount]
    exact Nat.le_add_left 2 _
  have hright := (hreport "create_p").2 ⟨fun hone => by omega, fun hzero => by omega⟩
  exact ⟨by decide, ⟨gen, hgen, (hping "ping").2 fun hmem => absurd hmem (by decide)⟩, d, r, gen', hd, hr, hgen',
    hright.2 hassigned, hassigned⟩

/-- A document with an enumeration that has two values of one constant. -/
def statusText : String :=
  "\x7b\"definitions\":\x7b\"Status\":\x7b\"type\":\"string\",\"enum\":[\"a-b\",\"a_b\"]\x7d\x7d\x7d"

/-- The second value of the enumeration takes the constant of the first one, which no collision tells. -/
theorem collisions_missed_status :
    ∃ d r gen, Document.ofText statusText = .ok d ∧ d.resolve {} = .ok r ∧
      (Generator.mk ⟨[], [], {}⟩ .builtin (by decide)).rest statusText = .ok gen ∧
      gen.content = String.ofList (printPieces (Rest.modulePieces r.endpoints r.definitions d.info)) ∧
      (assigned (Rest.modulePieces r.endpoints r.definitions d.info)).count "STATUS_a_b" = 2 ∧
      "STATUS_a_b" ∉ gen.report.collisions := by
  have hnames : ((Document.ofText statusText).toOption.bind fun d => (d.resolve {}).toOption.map fun r =>
      (Rest.constantNames r.definitions,
        Rest.constructorNames r.definitions ++ r.endpoints.map fun e => e.operationId.text,
        (restGenerated r.definitions r.endpoints).map Generated.name)) =
      some (["STATUS_a_b", "STATUS_a_b"], [], ["status"]) := by
    decide +kernel
  cases hd : Document.ofText statusText with
  | error fault => rw [hd] at hnames; cases hnames
  | ok d =>
    obtain ⟨r, hr⟩ : ∃ r, d.resolve {} = .ok r := ⟨_, Document.resolve_eq d {}⟩
    simp only [hd, hr, Except.toOption, Option.bind_some, Option.map_some, Option.some.injEq, Prod.mk.injEq] at hnames
    obtain ⟨hconstants, hfunctions, hgenerated⟩ := hnames
    refine ⟨d, r, _, rfl, hr, rest_builtin (by decide) hd hr, rfl, ?_, ?_⟩
    · rw [Rest.count_assigned_modulePieces, hconstants, hfunctions]
      decide
    · rw [mem_collisions_of, hgenerated]
      decide

end Generator

end LuaStubs
