import LuaStubs.Generator
import LuaStubs.Proofs.Manifest
import LuaStubs.Proofs.Proto.Lookup
import LuaStubs.Proofs.Realtime.Pieces

/-!
# Generating the realtime module

An entry of a manifest is kept if its block is in the document that declares it
(`keptMessages`, `keptEvents`). With the built-in templates every run succeeds,
with the kept entries in the module and the others among the skips
(`realtime_builtin`), and the skipped entries have no part in the module
(`realtime_complete`).
-/

namespace LuaStubs.Generator

open Template (printPieces)

variable (realtime api : Proto.Document)

/-! ## Kept entries -/

/-- Whether the document that declares an event has its block. -/
def hasEvent (e : EventEntry) : Bool := (sourceDocument realtime api e.source).hasBlock e.name

/-- The messages of a manifest that have a block. -/
def keptMessages (m : Manifest) : List MessageEntry := m.messages.filter fun e => realtime.hasBlock e.name

/-- The events of a manifest that have a block. -/
def keptEvents (m : Manifest) : List EventEntry := m.events.filter (hasEvent realtime api)

/-- The message of an entry, which says whether it is answered. -/
def sentMessage (e : MessageEntry) : Proto.Message :=
  { Proto.Message.ofFields e.name (realtime.fieldsOf e.name) with expectsResponse := e.expectsResponse }

/-- The skip of a message that has no block. -/
def skippedMessage (e : MessageEntry) : Skip := ⟨.message, e.name, (realtime.missing .message e.name).message⟩

/-- The skip of an event that has no block. -/
def skippedEvent (e : EventEntry) : Skip :=
  ⟨.event, e.name, ((sourceDocument realtime api e.source).missing .event e.name).message⟩

theorem selectMessage_eq (e : MessageEntry) : selectMessage realtime e = .ok
    (if realtime.hasBlock e.name then .ok (sentMessage realtime e) else .error (skippedMessage realtime e)) := by
  rw [selectMessage, Proto.Document.message_eq]
  cases h : realtime.hasBlock e.name with
  | true => rfl
  | false =>
    simp only [Bool.false_eq_true, if_false, Except.map, attempt, Proto.Document.isEntityError_missing, if_true]
    rfl

theorem selectEvent_eq (e : EventEntry) : selectEvent realtime api e = .ok
    (if hasEvent realtime api e then .ok (.ofName e.name) else .error (skippedEvent realtime api e)) := by
  rw [selectEvent, Proto.Document.event_eq, hasEvent]
  cases h : (sourceDocument realtime api e.source).hasBlock e.name with
  | true => rfl
  | false =>
    simp only [Bool.false_eq_true, if_false, attempt, Proto.Document.isEntityError_missing, if_true]
    rfl

/-! ## Runs -/

/-- A run renders the kept entries, and reports them if that succeeds. -/
theorem realtime_eq {τ : Type} [Template.Engine τ] (g : Generator τ) (realtimeText apiText : String) :
    let realtime := Proto.Document.ofText realtimeText
    let api := Proto.Document.ofText apiText
    g.realtime realtimeText apiText =
      (Realtime.renderModule g.templates ((keptMessages realtime g.manifest).map (sentMessage realtime))
        ((keptEvents realtime api g.manifest).map fun e => .ofName e.name)).map fun content => .of content .realtime
          (((keptMessages realtime g.manifest).map fun e => ⟨.message, normalize e.name⟩) ++
            (keptEvents realtime api g.manifest).map fun e => ⟨.event, "on_" ++ normalize e.name⟩)
          (((g.manifest.messages.filter fun e => !realtime.hasBlock e.name).map (skippedMessage realtime)) ++
            (g.manifest.events.filter fun e => !hasEvent realtime api e).map (skippedEvent realtime api)) := by
  intro realtime api
  rw [Generator.realtime, mapM_eq_ok (selectMessage_eq realtime), mapM_eq_ok (selectEvent_eq realtime api)]
  dsimp only [bind, Except.bind]
  rw [successes_map_ite, successes_map_ite, failures_map_ite, failures_map_ite, ← keptMessages, ← keptEvents]
  cases Realtime.renderModule g.templates ((keptMessages realtime g.manifest).map (sentMessage realtime))
      ((keptEvents realtime api g.manifest).map fun e => .ofName e.name) with
  | error e => rfl
  | ok content =>
    dsimp only
    rw [List.map_map, List.map_map]
    rfl

/-- A run with the built-in templates. -/
theorem realtime_builtin {m : Manifest} (h : m.problem? = none) (realtimeText apiText : String) :
    let realtime := Proto.Document.ofText realtimeText
    let api := Proto.Document.ofText apiText
    (Generator.mk m .builtin h).realtime realtimeText apiText = .ok (.of
      (String.ofList (printPieces (Realtime.modulePieces ((keptMessages realtime m).map (sentMessage realtime))
        ((keptEvents realtime api m).map fun e => .ofName e.name)))) .realtime
      (((keptMessages realtime m).map fun e => ⟨.message, normalize e.name⟩) ++
        (keptEvents realtime api m).map fun e => ⟨.event, "on_" ++ normalize e.name⟩)
      (((m.messages.filter fun e => !realtime.hasBlock e.name).map (skippedMessage realtime)) ++
        (m.events.filter fun e => !hasEvent realtime api e).map (skippedEvent realtime api))) := by
  intro realtime api
  rw [realtime_eq, Realtime.renderModule_builtin]
  rfl

/-- The manifest without the entries that are skipped. -/
def keptManifest (m : Manifest) : Manifest := ⟨keptMessages realtime m, keptEvents realtime api m, m.settings⟩

theorem keptManifest_valid {m : Manifest} (h : m.problem? = none) :
    (keptManifest realtime api m).problem? = none :=
  Manifest.problem?_sublist List.filter_sublist List.filter_sublist h

theorem keptMessages_keptManifest (m : Manifest) :
    keptMessages realtime (keptManifest realtime api m) = keptMessages realtime m := by
  simp only [keptMessages, keptManifest, List.filter_filter, Bool.and_self]

theorem keptEvents_keptManifest (m : Manifest) :
    keptEvents realtime api (keptManifest realtime api m) = keptEvents realtime api m := by
  simp only [keptEvents, keptManifest, List.filter_filter, Bool.and_self]

/-- A run on kept entries is one on all entries, without the skips. -/
theorem realtime_keptManifest {m : Manifest} (h : m.problem? = none) (realtimeText apiText : String) :
    let realtime := Proto.Document.ofText realtimeText
    let api := Proto.Document.ofText apiText
    (Generator.mk _ .builtin (keptManifest_valid realtime api h)).realtime realtimeText apiText = .ok (.of
      (String.ofList (printPieces (Realtime.modulePieces ((keptMessages realtime m).map (sentMessage realtime))
        ((keptEvents realtime api m).map fun e => .ofName e.name)))) .realtime
      (((keptMessages realtime m).map fun e => ⟨.message, normalize e.name⟩) ++
        (keptEvents realtime api m).map fun e => ⟨.event, "on_" ++ normalize e.name⟩) []) := by
  intro realtime api
  have hmessages : (keptMessages realtime m).filter (fun e => !realtime.hasBlock e.name) = [] :=
    List.filter_eq_nil_iff.2 fun e he => by simp [(List.mem_filter.1 he).2]
  have hevents : (keptEvents realtime api m).filter (fun e => !hasEvent realtime api e) = [] :=
    List.filter_eq_nil_iff.2 fun e he => by simp [(List.mem_filter.1 he).2]
  rw [realtime_builtin, keptMessages_keptManifest, keptEvents_keptManifest, keptManifest, hmessages, hevents]
  rfl

/-- A run accounts for every entry of its manifest, and what it skips has no part in the module.
With the built-in templates it always succeeds. The module and the report have the messages and the
events whose block is found and closed, in the order of the manifest, and the report has the others
as its skips. Without the skipped entries the run gives the same module and report, but no skips. -/
theorem realtime_complete {m : Manifest} (h : m.problem? = none) (realtimeText apiText : String) :
    let realtime := Proto.Document.ofText realtimeText
    let api := Proto.Document.ofText apiText
    let messages := m.messages.filter fun e => realtime.hasBlock e.name
    let events := m.events.filter fun e => (sourceDocument realtime api e.source).hasBlock e.name
    ∃ gen, (Generator.mk m .builtin h).realtime realtimeText apiText = .ok gen ∧
      gen.content = String.ofList (printPieces (Realtime.modulePieces
        (messages.map fun e =>
          { Proto.Message.ofFields e.name (realtime.fieldsOf e.name) with expectsResponse := e.expectsResponse })
        (events.map fun e => .ofName e.name))) ∧
      gen.report.generated =
        (messages.map fun e => ⟨.message, normalize e.name⟩) ++
          events.map (fun e => ⟨.event, "on_" ++ normalize e.name⟩) ∧
      gen.report.skipped =
        ((m.messages.filter fun e => !realtime.hasBlock e.name).map fun e =>
          ⟨.message, e.name, (realtime.missing .message e.name).message⟩) ++
        ((m.events.filter fun e => !(sourceDocument realtime api e.source).hasBlock e.name).map fun e =>
          ⟨.event, e.name, ((sourceDocument realtime api e.source).missing .event e.name).message⟩) ∧
      ∃ (h' : Manifest.problem? ⟨messages, events, m.settings⟩ = none) (gen' : Generation),
        (Generator.mk ⟨messages, events, m.settings⟩ .builtin h').realtime realtimeText apiText = .ok gen' ∧
        gen'.content = gen.content ∧ gen'.report.generated = gen.report.generated ∧
        gen'.report.collisions = gen.report.collisions ∧ gen'.report.skipped = [] := by
  intro realtime api messages events
  exact ⟨_, realtime_builtin h realtimeText apiText, rfl, rfl, rfl, keptManifest_valid realtime api h, _,
    realtime_keptManifest h realtimeText apiText, rfl, rfl, rfl, rfl⟩

/-- A manifest with a message that is declared and an event that is not. -/
def pingManifest : Manifest := ⟨[⟨"Ping", true⟩], [⟨"Pong", .api⟩], {}⟩

theorem realtime_complete_ping :
    pingManifest.problem? = none ∧
    ∃ gen, (Generator.mk pingManifest .builtin (by decide)).realtime "message Ping \x7b\n\x7d" "" = .ok gen ∧
      gen.report.generated = [⟨.message, "ping"⟩] ∧ gen.report.skipped.map Skip.name = ["Pong"] := by
  refine ⟨by decide, ?_⟩
  obtain ⟨gen, hgen, -, hgenerated, hskipped, -⟩ :=
    realtime_complete (m := pingManifest) (by decide) "message Ping \x7b\n\x7d" ""
  refine ⟨gen, hgen, ?_, ?_⟩
  · rw [hgenerated]
    decide +kernel
  · rw [hskipped]
    decide +kernel

end LuaStubs.Generator
