import LuaStubs.Manifest.Decode
import LuaStubs.Proofs.Command.Preparation
import LuaStubs.Proofs.Manifest
import LuaStubs.Proofs.Toml.Decode
import LuaStubs.Proofs.Toml.Equality

/-!
# The form of a manifest

Which tables are manifests (`Documented`) and which manifest a table holds
(`Written`). Both say it of the table alone, through its sections and their
entries. A text is read as a manifest just if it is TOML of a table of that form,
and as the manifest that the table holds (`ofToml_exact`).

Records may also be written as arrays, and a source as a table. That form is left
out here (`Plain`).
-/

namespace LuaStubs

open Toml (HasOnly Holds required? optional? holds_of_optional? exists_optional?_iff exists_optional?_eq_some_iff)

variable {t : Entries Toml.Value}

/-! ## Entries -/

/-- A table has a name. -/
def Named (t : Entries Toml.Value) (name : String) : Prop := t.get? "name" = some (.text name)

theorem required?_name_eq_some_iff {name : String} :
    required? "name" Toml.Value.text? t = some name ↔ Named t name := by
  simp [required?, Named, Option.bind_eq_some_iff, Toml.Value.text?_eq_some_iff]

namespace MessageEntry

/-- Apart from its name, a table has at most what a message has: whether the server answers. -/
structure Documented (t : Entries Toml.Value) : Prop where
  keys : HasOnly ["name", "expects_response"] t
  expectsResponse : ∀ v, t.get? "expects_response" = some v → ∃ b, v = .boolean b

/-- A table holds a message, which is answered where the table does not say. -/
structure Written (t : Entries Toml.Value) (m : MessageEntry) : Prop where
  name : Named t m.name
  expectsResponse : Holds "expects_response" true (fun v b => v = .boolean b) t m.expectsResponse

theorem decode?_table_eq_some_iff {m : MessageEntry} : decode? (.table t) = some m ↔
    HasOnly ["name", "expects_response"] t ∧ Named t m.name ∧
      optional? "expects_response" true Toml.Value.boolean? t = some m.expectsResponse := by
  simp only [decode?, bind, Option.bind_eq_some_iff, Toml.fields?_table_eq_some_iff, required?_name_eq_some_iff,
    Option.some.injEq]
  constructor
  · rintro ⟨_, ⟨hkeys, rfl⟩, name, hname, b, hb, rfl⟩
    exact ⟨hkeys, hname, hb⟩
  · rintro ⟨hkeys, hname, hb⟩
    exact ⟨t, ⟨hkeys, rfl⟩, m.name, hname, m.expectsResponse, hb, rfl⟩

theorem exists_decode?_iff {name : String} :
    (∃ m, decode? (.table t) = some m ∧ m.name = name) ↔ Documented t ∧ Named t name := by
  have hb : (∃ b, optional? "expects_response" true Toml.Value.boolean? t = some b) ↔
      ∀ v, t.get? "expects_response" = some v → ∃ b, v = .boolean b := by
    simp only [exists_optional?_eq_some_iff, Toml.Value.boolean?_eq_some_iff]
  constructor
  · rintro ⟨m, hm, rfl⟩
    obtain ⟨hkeys, hname, hanswer⟩ := decode?_table_eq_some_iff.1 hm
    exact ⟨⟨hkeys, hb.1 ⟨_, hanswer⟩⟩, hname⟩
  · rintro ⟨⟨hkeys, hanswer⟩, hname⟩
    obtain ⟨b, hb⟩ := hb.2 hanswer
    exact ⟨⟨name, b⟩, decode?_table_eq_some_iff.2 ⟨hkeys, hname, hb⟩, rfl⟩

theorem written_of_decode? {m : MessageEntry} (h : decode? (.table t) = some m) : Written t m := by
  obtain ⟨-, hname, hanswer⟩ := decode?_table_eq_some_iff.1 h
  exact ⟨hname, holds_of_optional? hanswer fun _ _ => Toml.Value.boolean?_eq_some_iff.1⟩

end MessageEntry

theorem EventSource.ofName?_eq_some_iff {s : EventSource} {name : String} : ofName? name = some s ↔ name = s.name := by
  constructor
  · intro h
    rw [ofName?.eq_def] at h
    split at h <;> cases h <;> rfl
  · rintro rfl
    cases s <;> rfl

theorem EventSource.decode?_eq_some_iff {v : Toml.Value} {s : EventSource} (h : ∀ entries, v ≠ .table entries) :
    decode? v = some s ↔ v = .text s.name := by
  cases v with
  | text name => rw [decode?, ofName?_eq_some_iff, Toml.Value.text.injEq]
  | table entries => exact absurd rfl (h entries)
  | _ => simp [decode?]

namespace EventEntry

/-- Apart from its name, a table has at most what an event has: its source. -/
structure Documented (t : Entries Toml.Value) : Prop where
  keys : HasOnly ["name", "source"] t
  source : ∀ v, t.get? "source" = some v → v = .text "realtime" ∨ v = .text "api"

/-- A table holds an event, which the realtime protocol declares where the table does not say. -/
structure Written (t : Entries Toml.Value) (e : EventEntry) : Prop where
  name : Named t e.name
  source : Holds "source" .realtime (fun v s => v = .text (EventSource.name s)) t e.source

theorem decode?_table_eq_some_iff {e : EventEntry} : decode? (.table t) = some e ↔
    HasOnly ["name", "source"] t ∧ Named t e.name ∧
      optional? "source" .realtime EventSource.decode? t = some e.source := by
  simp only [decode?, bind, Option.bind_eq_some_iff, Toml.fields?_table_eq_some_iff, required?_name_eq_some_iff,
    Option.some.injEq]
  constructor
  · rintro ⟨_, ⟨hkeys, rfl⟩, name, hname, s, hs, rfl⟩
    exact ⟨hkeys, hname, hs⟩
  · rintro ⟨hkeys, hname, hs⟩
    exact ⟨t, ⟨hkeys, rfl⟩, e.name, hname, e.source, hs, rfl⟩

/-- A source is not written as a table. -/
def PlainSource (t : Entries Toml.Value) : Prop := ∀ entries, t.get? "source" ≠ some (.table entries)

theorem PlainSource.decode?_iff (h : PlainSource t) {v : Toml.Value} (hv : t.get? "source" = some v)
    {s : EventSource} : EventSource.decode? v = some s ↔ v = .text s.name :=
  EventSource.decode?_eq_some_iff fun entries heq => h entries (heq ▸ hv)

theorem exists_decode?_iff (h : PlainSource t) {name : String} :
    (∃ e, decode? (.table t) = some e ∧ e.name = name) ↔ Documented t ∧ Named t name := by
  have hs : (∃ s, optional? "source" .realtime EventSource.decode? t = some s) ↔
      ∀ v, t.get? "source" = some v → v = .text "realtime" ∨ v = .text "api" := by
    rw [exists_optional?_eq_some_iff]
    refine forall₂_congr fun v hv => ?_
    simp only [h.decode?_iff hv]
    exact ⟨fun ⟨s, hs⟩ => by cases s <;> simp [hs, EventSource.name],
      fun hv => hv.elim (fun hv => ⟨.realtime, hv⟩) fun hv => ⟨.api, hv⟩⟩
  constructor
  · rintro ⟨e, he, rfl⟩
    obtain ⟨hkeys, hname, hsource⟩ := decode?_table_eq_some_iff.1 he
    exact ⟨⟨hkeys, hs.1 ⟨_, hsource⟩⟩, hname⟩
  · rintro ⟨⟨hkeys, hsource⟩, hname⟩
    obtain ⟨s, hs⟩ := hs.2 hsource
    exact ⟨⟨name, s⟩, decode?_table_eq_some_iff.2 ⟨hkeys, hname, hs⟩, rfl⟩

theorem written_of_decode? (h : PlainSource t) {e : EventEntry} (he : decode? (.table t) = some e) : Written t e := by
  obtain ⟨-, hname, hsource⟩ := decode?_table_eq_some_iff.1 he
  exact ⟨hname, holds_of_optional? hsource fun _ hv => (h.decode?_iff hv).1⟩

end EventEntry

/-! ## Sections -/

namespace Manifest

/-- A value is a list of tables, each of a form, with names of which none is blank and no two are the same. -/
def Section (form : Entries Toml.Value → Prop) (v : Toml.Value) : Prop :=
  ∃ tables names, v = .array (tables.map .table) ∧ (∀ t ∈ tables, form t) ∧ List.Forall₂ Named tables names ∧
    (∀ name ∈ names, Text.isBlankText name.toList = false) ∧ names.Nodup

variable {α : Type} {decode : Toml.Value → Option α} {name : α → String} {form : Entries Toml.Value → Prop}
  {v : Toml.Value}

/-- Where records alone are read and none is an array, a list that is read is one of tables. -/
theorem forall₂_tables_iff {items : List Toml.Value} {xs : List α}
    (hdecode : ∀ v x, decode v = some x → Toml.IsRecord v) (hplain : ∀ fields, .array fields ∉ items) :
    List.Forall₂ (fun item x => decode item = some x) items xs ↔
      ∃ tables, items = tables.map .table ∧ List.Forall₂ (fun t x => decode (.table t) = some x) tables xs := by
  constructor
  · intro h
    induction h with
    | nil => exact ⟨[], rfl, .nil⟩
    | cons hx _ ih =>
      obtain ⟨tables, rfl, htables⟩ := ih fun fields hmem => hplain fields (List.mem_cons_of_mem _ hmem)
      rcases hdecode _ _ hx with ⟨t, rfl⟩ | ⟨fields, rfl⟩
      · exact ⟨t :: tables, rfl, .cons hx htables⟩
      · exact absurd (List.mem_cons_self ..) (hplain fields)
  · rintro ⟨tables, rfl, h⟩
    exact List.forall₂_map_left_iff.2 h

/-- Tables are read as entries of some names just if each has the form of an entry and has its name. -/
theorem forall₂_named_iff {tables : List (Entries Toml.Value)} {names : List String}
    (hform : ∀ t ∈ tables, ∀ n, (∃ x, decode (.table t) = some x ∧ name x = n) ↔ form t ∧ Named t n) :
    (∃ xs, List.Forall₂ (fun t x => decode (.table t) = some x) tables xs ∧ xs.map name = names) ↔
      (∀ t ∈ tables, form t) ∧ List.Forall₂ Named tables names := by
  rw [← List.forall₂_and_left]
  induction tables generalizing names with
  | nil => simp [eq_comm]
  | cons t tables ih =>
    have ht := hform t (List.mem_cons_self ..)
    have htables := fun names => @ih names fun t' ht' => hform t' (List.mem_cons_of_mem _ ht')
    simp only [List.forall₂_cons_left_iff, ← ht, ← htables]
    constructor
    · rintro ⟨_, ⟨x, xs, hx, hxs, rfl⟩, rfl⟩
      exact ⟨name x, xs.map name, ⟨x, hx, rfl⟩, ⟨xs, hxs, rfl⟩, rfl⟩
    · rintro ⟨_, _, ⟨x, hx, rfl⟩, ⟨xs, hxs, rfl⟩, rfl⟩
      exact ⟨x :: xs, ⟨x, xs, hx, hxs, rfl⟩, rfl⟩

theorem list?_eq_some_iff_of_plain {xs : List α} (hdecode : ∀ v x, decode v = some x → Toml.IsRecord v)
    (hplain : ∀ items, v = .array items → ∀ fields, .array fields ∉ items) :
    v.list? decode = some xs ↔
      ∃ tables, v = .array (tables.map .table) ∧ List.Forall₂ (fun t x => decode (.table t) = some x) tables xs := by
  rw [Toml.Value.list?_eq_some_iff]
  constructor
  · rintro ⟨items, rfl, hxs⟩
    obtain ⟨tables, rfl, htables⟩ := (forall₂_tables_iff hdecode (hplain items rfl)).1 hxs
    exact ⟨tables, rfl, htables⟩
  · rintro ⟨tables, rfl, htables⟩
    exact ⟨_, rfl, (forall₂_tables_iff hdecode (hplain _ rfl)).2 ⟨tables, rfl, htables⟩⟩

/-- A value is read as entries without a problem just if it is a section of them. -/
theorem exists_list?_iff {kind : EntityKind} (hdecode : ∀ v x, decode v = some x → Toml.IsRecord v)
    (hplain : ∀ items, v = .array items → ∀ fields, .array fields ∉ items)
    (hform : ∀ items, v = .array items → ∀ t, .table t ∈ items →
      ∀ n, (∃ x, decode (.table t) = some x ∧ name x = n) ↔ form t ∧ Named t n) :
    (∃ xs, v.list? decode = some xs ∧ nameProblem? kind [] (xs.map name) = none) ↔ Section form v := by
  simp only [list?_eq_some_iff_of_plain hdecode hplain, nameProblem?_eq_none_iff, List.not_mem_nil, not_false_eq_true,
    and_true]
  constructor
  · rintro ⟨xs, ⟨tables, rfl, hxs⟩, hblank, hnodup⟩
    obtain ⟨hall, hnamed⟩ := (forall₂_named_iff fun t ht => hform _ rfl t (List.mem_map_of_mem ht)).1 ⟨xs, hxs, rfl⟩
    exact ⟨tables, xs.map name, rfl, hall, hnamed, hblank, hnodup⟩
  · rintro ⟨tables, names, rfl, hall, hnamed, hblank, hnodup⟩
    obtain ⟨xs, hxs, rfl⟩ := (forall₂_named_iff fun t ht => hform _ rfl t (List.mem_map_of_mem ht)).2 ⟨hall, hnamed⟩
    exact ⟨xs, ⟨tables, rfl, hxs⟩, hblank, hnodup⟩

end Manifest

/-! ## Settings -/

namespace Api.Settings

/-- A table has at most what settings have, and the name of the session definition is not blank. -/
structure Documented (t : Entries Toml.Value) : Prop where
  keys : HasOnly ["namespace_prefixes", "session_definition", "authenticate_token"] t
  namespaceLeads : ∀ v, t.get? "namespace_prefixes" = some v → ∃ leads : List String, v = .array (leads.map .text)
  sessionDefinition : ∀ v, t.get? "session_definition" = some v →
    ∃ name, v = .text name ∧ Text.isBlankText name.toList = false
  authenticateToken : ∀ v, t.get? "authenticate_token" = some v → ∃ token, v = .text token

/-- A table holds settings, which are the default ones where the table does not say. -/
structure Written (t : Entries Toml.Value) (s : Settings) : Prop where
  namespaceLeads : Holds "namespace_prefixes" Manifest.default.settings.namespaceLeads
    (fun v (leads : List String) => v = .array (leads.map .text)) t s.namespaceLeads
  sessionDefinition : Holds "session_definition" Manifest.default.settings.sessionDefinition
    (fun v name => v = .text name) t s.sessionDefinition
  authenticateToken : Holds "authenticate_token" Manifest.default.settings.authenticateToken
    (fun v token => v = .text token) t s.authenticateToken

theorem decode?_table_eq_some_iff {s : Settings} : decode? (.table t) = some s ↔
    HasOnly ["namespace_prefixes", "session_definition", "authenticate_token"] t ∧
      optional? "namespace_prefixes" Manifest.default.settings.namespaceLeads
        (Toml.Value.list? Toml.Value.text?) t = some s.namespaceLeads ∧
      optional? "session_definition" Manifest.default.settings.sessionDefinition Toml.Value.text? t =
        some s.sessionDefinition ∧
      optional? "authenticate_token" Manifest.default.settings.authenticateToken Toml.Value.text? t =
        some s.authenticateToken := by
  simp only [decode?, bind, Option.bind_eq_some_iff, Toml.fields?_table_eq_some_iff, Option.some.injEq]
  constructor
  · rintro ⟨_, ⟨hkeys, rfl⟩, leads, hleads, definition, hdefinition, token, htoken, rfl⟩
    exact ⟨hkeys, hleads, hdefinition, htoken⟩
  · rintro ⟨hkeys, hleads, hdefinition, htoken⟩
    exact ⟨t, ⟨hkeys, rfl⟩, _, hleads, _, hdefinition, _, htoken, rfl⟩

theorem settingsProblem?_eq_none_iff {s : Settings} :
    Manifest.settingsProblem? s = none ↔ Text.isBlankText s.sessionDefinition.toList = false := by
  simp [Manifest.settingsProblem?]

theorem exists_decode?_iff :
    (∃ s, decode? (.table t) = some s ∧ Manifest.settingsProblem? s = none) ↔ Documented t := by
  have hleads : (∃ leads, optional? "namespace_prefixes" Manifest.default.settings.namespaceLeads
      (Toml.Value.list? Toml.Value.text?) t = some leads) ↔
        ∀ v, t.get? "namespace_prefixes" = some v → ∃ leads : List String, v = .array (leads.map .text) := by
    simp only [exists_optional?_eq_some_iff, Toml.Value.list?_text?_eq_some_iff]
  have hdefinition : (∃ name, optional? "session_definition" Manifest.default.settings.sessionDefinition
      Toml.Value.text? t = some name ∧ Text.isBlankText name.toList = false) ↔
        ∀ v, t.get? "session_definition" = some v → ∃ name, v = .text name ∧ Text.isBlankText name.toList = false := by
    have hdefault : Text.isBlankText Manifest.default.settings.sessionDefinition.toList = false := by decide
    rw [exists_optional?_iff (P := fun name : String => Text.isBlankText name.toList = false) hdefault]
    simp only [Toml.Value.text?_eq_some_iff]
  have htoken : (∃ token, optional? "authenticate_token" Manifest.default.settings.authenticateToken
      Toml.Value.text? t = some token) ↔ ∀ v, t.get? "authenticate_token" = some v → ∃ token, v = .text token := by
    simp only [exists_optional?_eq_some_iff, Toml.Value.text?_eq_some_iff]
  simp only [decode?_table_eq_some_iff, settingsProblem?_eq_none_iff]
  constructor
  · rintro ⟨s, ⟨hkeys, hl, hd, ht⟩, hblank⟩
    exact ⟨hkeys, hleads.1 ⟨_, hl⟩, hdefinition.1 ⟨_, hd, hblank⟩, htoken.1 ⟨_, ht⟩⟩
  · rintro ⟨hkeys, hl, hd, ht⟩
    obtain ⟨leads, hl⟩ := hleads.2 hl
    obtain ⟨definition, hd, hblank⟩ := hdefinition.2 hd
    obtain ⟨token, ht⟩ := htoken.2 ht
    exact ⟨⟨leads, definition, token⟩, ⟨hkeys, hl, hd, ht⟩, hblank⟩

theorem written_of_decode? {s : Settings} (h : decode? (.table t) = some s) : Written t s := by
  obtain ⟨-, hleads, hdefinition, htoken⟩ := decode?_table_eq_some_iff.1 h
  exact ⟨holds_of_optional? hleads fun _ _ => Toml.Value.list?_text?_eq_some_iff.1,
    holds_of_optional? hdefinition fun _ _ => Toml.Value.text?_eq_some_iff.1,
    holds_of_optional? htoken fun _ _ => Toml.Value.text?_eq_some_iff.1⟩

end Api.Settings

/-! ## Manifests -/

namespace Manifest

/-- A table has the form of a manifest: at most a list of messages, a list of events and settings. -/
structure Documented (t : Entries Toml.Value) : Prop where
  keys : HasOnly ["messages", "events", "rest"] t
  messages : ∀ v, t.get? "messages" = some v → Section MessageEntry.Documented v
  events : ∀ v, t.get? "events" = some v → Section EventEntry.Documented v
  settings : ∀ v, t.get? "rest" = some v → ∃ rest, v = .table rest ∧ Api.Settings.Documented rest

/-- A table holds a manifest: the entries of its sections in their order, and the default where it has no such
section. -/
structure Written (t : Entries Toml.Value) (m : Manifest) : Prop where
  messages : Holds "messages" Manifest.default.messages
    (fun v messages => ∃ tables, v = .array (tables.map .table) ∧ List.Forall₂ MessageEntry.Written tables messages)
    t m.messages
  events : Holds "events" Manifest.default.events
    (fun v events => ∃ tables, v = .array (tables.map .table) ∧ List.Forall₂ EventEntry.Written tables events)
    t m.events
  settings : Holds "rest" Manifest.default.settings
    (fun v settings => ∃ rest, v = .table rest ∧ Api.Settings.Written rest settings) t m.settings

/-- No record of a manifest is written as an array, and no source as a table. -/
structure Plain (t : Entries Toml.Value) : Prop where
  messages : ∀ items, t.get? "messages" = some (.array items) → ∀ fields, .array fields ∉ items
  events : ∀ items, t.get? "events" = some (.array items) → ∀ fields, .array fields ∉ items
  settings : ∀ fields, t.get? "rest" ≠ some (.array fields)
  source : ∀ items, t.get? "events" = some (.array items) → ∀ e, .table e ∈ items → EventEntry.PlainSource e

variable {m : Manifest}

theorem decode?_eq_some_iff : decode? t = some m ↔ HasOnly ["messages", "events", "rest"] t ∧
    optional? "messages" Manifest.default.messages (Toml.Value.list? MessageEntry.decode?) t = some m.messages ∧
    optional? "events" Manifest.default.events (Toml.Value.list? EventEntry.decode?) t = some m.events ∧
    optional? "rest" Manifest.default.settings Api.Settings.decode? t = some m.settings := by
  simp only [decode?, bind, Option.bind_eq_some_iff, Toml.fields?_table_eq_some_iff, Option.some.injEq]
  constructor
  · rintro ⟨_, ⟨hkeys, rfl⟩, messages, hmessages, events, hevents, settings, hsettings, rfl⟩
    exact ⟨hkeys, hmessages, hevents, hsettings⟩
  · rintro ⟨hkeys, hmessages, hevents, hsettings⟩
    exact ⟨t, ⟨hkeys, rfl⟩, _, hmessages, _, hevents, _, hsettings, rfl⟩

theorem ofToml_eq_ok_iff {text : String} (h : Toml.table? text = some t) :
    ofToml text = .ok m ↔ decode? t = some m ∧ m.problem? = none := by
  rw [ofToml, h, Option.bind_some]
  cases decode? t with
  | none => simp
  | some m' =>
    simp only [validate, Option.some.injEq]
    cases hproblem : m'.problem? with
    | none =>
      simp only [Except.ok.injEq]
      exact ⟨fun h => ⟨h, h ▸ hproblem⟩, And.left⟩
    | some problem =>
      simp only [reduceCtorEq, false_iff, not_and]
      rintro rfl
      simp [hproblem]

namespace Plain

variable (h : Plain t)

include h

theorem message_iff {v : Toml.Value} (hv : t.get? "messages" = some v) :
    (∃ ms, v.list? MessageEntry.decode? = some ms ∧
        nameProblem? .message [] (ms.map MessageEntry.name) = none) ↔ Section MessageEntry.Documented v :=
  exists_list?_iff (fun _ _ => Toml.isRecord_of_fields?_bind) (fun items heq => h.messages items (heq ▸ hv))
    fun _ _ _ _ _ => MessageEntry.exists_decode?_iff

theorem event_iff {v : Toml.Value} (hv : t.get? "events" = some v) :
    (∃ es, v.list? EventEntry.decode? = some es ∧
        nameProblem? .event [] (es.map EventEntry.name) = none) ↔ Section EventEntry.Documented v :=
  exists_list?_iff (fun _ _ => Toml.isRecord_of_fields?_bind) (fun items heq => h.events items (heq ▸ hv))
    fun items heq e he _ => EventEntry.exists_decode?_iff (h.source items (heq ▸ hv) e he)

theorem settings_eq_table {v : Toml.Value} (hv : t.get? "rest" = some v) {s : Api.Settings}
    (hs : Api.Settings.decode? v = some s) : ∃ rest, v = .table rest :=
  (Toml.isRecord_of_fields?_bind hs).resolve_right fun ⟨fields, heq⟩ => h.settings fields (heq ▸ hv)

theorem settings_iff {v : Toml.Value} (hv : t.get? "rest" = some v) :
    (∃ s, Api.Settings.decode? v = some s ∧ settingsProblem? s = none) ↔
      ∃ rest, v = .table rest ∧ Api.Settings.Documented rest := by
  simp only [← Api.Settings.exists_decode?_iff]
  constructor
  · rintro ⟨s, hs, hproblem⟩
    obtain ⟨rest, rfl⟩ := h.settings_eq_table hv hs
    exact ⟨rest, rfl, s, hs, hproblem⟩
  · rintro ⟨rest, rfl, hrest⟩
    exact hrest

/-- A table is read as a valid manifest just if it has the form of one. -/
theorem exists_decode?_iff : (∃ m, decode? t = some m ∧ m.problem? = none) ↔ Documented t := by
  obtain ⟨hmessages, hevents, hsettings⟩ := problem?_eq_none_iff.1 default_valid
  have hms := (exists_optional?_iff (P := fun ms : List MessageEntry =>
    nameProblem? .message [] (ms.map MessageEntry.name) = none) hmessages).trans (forall₂_congr fun _ => h.message_iff)
  have hes := (exists_optional?_iff (P := fun es : List EventEntry =>
    nameProblem? .event [] (es.map EventEntry.name) = none) hevents).trans (forall₂_congr fun _ => h.event_iff)
  have hss := (exists_optional?_iff (P := fun s => settingsProblem? s = none) hsettings).trans
    (forall₂_congr fun _ => h.settings_iff)
  simp only [decode?_eq_some_iff, problem?_eq_none_iff]
  constructor
  · rintro ⟨m, ⟨hkeys, hm, he, hs⟩, hmproblem, heproblem, hsproblem⟩
    exact ⟨hkeys, hms.1 ⟨_, hm, hmproblem⟩, hes.1 ⟨_, he, heproblem⟩, hss.1 ⟨_, hs, hsproblem⟩⟩
  · rintro ⟨hkeys, hm, he, hs⟩
    obtain ⟨messages, hm, hmproblem⟩ := hms.2 hm
    obtain ⟨events, he, heproblem⟩ := hes.2 he
    obtain ⟨settings, hs, hsproblem⟩ := hss.2 hs
    exact ⟨⟨messages, events, settings⟩, ⟨hkeys, hm, he, hs⟩, hmproblem, heproblem, hsproblem⟩

theorem written_of_decode? (hm : decode? t = some m) : Written t m := by
  obtain ⟨-, hmessages, hevents, hsettings⟩ := decode?_eq_some_iff.1 hm
  refine ⟨Toml.holds_of_optional? hmessages fun v hv hms => ?_, Toml.holds_of_optional? hevents fun v hv hes => ?_,
    Toml.holds_of_optional? hsettings fun v hv hs => ?_⟩
  · obtain ⟨tables, rfl, htables⟩ := (list?_eq_some_iff_of_plain (fun _ _ => Toml.isRecord_of_fields?_bind)
      fun items heq => h.messages items (heq ▸ hv)).1 hms
    exact ⟨tables, rfl, htables.imp fun _ _ => MessageEntry.written_of_decode?⟩
  · obtain ⟨tables, rfl, htables⟩ := (list?_eq_some_iff_of_plain (fun _ _ => Toml.isRecord_of_fields?_bind)
      fun items heq => h.events items (heq ▸ hv)).1 hes
    have hsource : ∀ e ∈ tables, EventEntry.PlainSource e := fun e he => h.source _ hv e (List.mem_map_of_mem he)
    exact ⟨tables, rfl, ((List.forall₂_and_left _ _).2 ⟨hsource, htables⟩).imp fun e _ hboth =>
      EventEntry.written_of_decode? hboth.1 hboth.2⟩
  · obtain ⟨rest, rfl⟩ := h.settings_eq_table hv hs
    exact ⟨rest, rfl, Api.Settings.written_of_decode? hs⟩

end Plain

/-- A text is a manifest just if its table has the documented form, and it is the manifest that this table
holds. -/
theorem ofToml_exact {text : String} (htable : Toml.table? text = some t) (hplain : Plain t) :
    ((∃ m, ofToml text = .ok m) ↔ Documented t) ∧ ∀ m, ofToml text = .ok m → Written t m := by
  simp only [ofToml_eq_ok_iff htable]
  exact ⟨hplain.exists_decode?_iff, fun m hm => hplain.written_of_decode? hm.1⟩

/-- A table with one message and settings, but no events. -/
def pingTable : Entries Toml.Value :=
  [("messages", .array [.table [("name", .text "Ping"), ("expects_response", .boolean false)]]),
   ("rest", .table [("session_definition", .text "Login")])]

theorem plain_pingTable : Plain pingTable where
  messages := by
    rintro items ⟨⟩
    simp
  events := nofun
  settings := nofun
  source := nofun

theorem documented_pingTable : Documented pingTable where
  keys := by decide
  messages := by
    rintro v ⟨⟩
    refine ⟨[_], ["Ping"], rfl, ?_, .cons rfl .nil, by decide, by decide⟩
    simp only [List.mem_singleton, forall_eq]
    refine ⟨by decide, ?_⟩
    rintro v ⟨⟩
    exact ⟨false, rfl⟩
  events := nofun
  settings := by
    rintro v ⟨⟩
    refine ⟨_, rfl, by decide, nofun, ?_, nofun⟩
    rintro v ⟨⟩
    exact ⟨"Login", rfl, by decide⟩

/-- The text of that table is a manifest, with the events of the default. -/
theorem ofToml_exact_ping :
    Toml.table? "[[messages]]\nname = \"Ping\"\nexpects_response = false\n[rest]\nsession_definition = \"Login\"\n" =
        some pingTable ∧ Plain pingTable ∧ Documented pingTable ∧
      ∃ m, ofToml "[[messages]]\nname = \"Ping\"\nexpects_response = false\n[rest]\nsession_definition = \"Login\"\n" =
        .ok m ∧ Written pingTable m ∧ m.events = Manifest.default.events := by
  have htable : Toml.table?
      "[[messages]]\nname = \"Ping\"\nexpects_response = false\n[rest]\nsession_definition = \"Login\"\n" =
        some pingTable := by decide +kernel
  obtain ⟨hiff, hwritten⟩ := ofToml_exact htable plain_pingTable
  obtain ⟨m, hm⟩ := hiff.2 documented_pingTable
  exact ⟨htable, plain_pingTable, documented_pingTable, m, hm, hwritten m hm, (hwritten m hm).events⟩

end Manifest

end LuaStubs
