import LuaStubs.Proofs.Generator.Realtime
import LuaStubs.Proofs.Generator.Rest
import LuaStubs.Proofs.Lua.Name
import LuaStubs.Proofs.Rest.Arguments

/-!
# The names in a module

A `NamePlace` is a place of a module where a name is printed. The places of the
realtime module are those of `RealtimeName`, the places of the REST module those
of `RestName`. Each has its text in the module, but the text need not be a name:
only the arguments of REST functions are made into names, and what is declared
for the others has to be suitable (`names_usable_iff`).
-/

namespace LuaStubs.Generator

open Api (Document Operation Settings)
open Rest (ConstantContext)
open Template (Piece assigned printPieces)

/-! ## Places -/

/-- A place where a name is printed, with what the name is made of. -/
inductive NamePlace where
  /-- The function that sends a message. -/
  | sender (message : String)
  /-- The key of a message's payload. -/
  | payload (message : String)
  /-- A parameter of the function that sends a message. -/
  | parameter (field : String)
  /-- A key in the payload. -/
  | field (field : String)
  /-- The function that sets the handler of an event. -/
  | hook (event : String)
  /-- The key of an event's handler. -/
  | handler (event : String)
  /-- The function that calls an endpoint. Its operation id loses one of the leads. -/
  | caller (leads : List String) (id : String)
  /-- The function that makes a value of a definition. -/
  | constructor (definition : String)
  /-- The constant of a value of an enumeration. -/
  | constant (definition value : String)

namespace NamePlace

/-- The text at a place. -/
def printed : NamePlace → String
  | sender s | payload s | handler s => normalize s
  | parameter s | field s => s
  | hook s => "on_" ++ normalize s
  | caller leads id => ((Identifier.ofName id).dropLeads leads).text
  | constructor s => "create_" ++ normalize s
  | constant s value => (ConstantContext.ofValue s value).name

/-- What is printed before the name. -/
def before : NamePlace → String
  | sender _ | hook _ | caller _ _ | constructor _ => "function M."
  | payload _ => "\t\t"
  | parameter _ => ", "
  | field _ => "\t\t\t"
  | handler _ => "\tsocket.events."
  | constant _ _ => "M."

/-- What is printed behind the name. -/
def behind : NamePlace → String
  | sender _ | hook _ | caller _ _ | constructor _ => "("
  | payload _ => " = \x7b\n"
  | parameter _ => ", "
  | field _ => " = "
  | handler _ => " = fn\nend\n"
  | constant _ _ => " = \""

/-- The place is in a module. -/
def IsIn (p : NamePlace) (content : String) : Prop :=
  (p.before ++ p.printed ++ p.behind).toList <:+: content.toList

/-- What is left of an operation id that loses one of the leads. -/
def stem (leads : List String) (id : String) : String := ((Identifier.ofName id).remainder? leads).getD id

/-- What is declared is suitable for a name. A field is kept as it is; a lead makes up for a digit or a
reserved word; a constant ends with its value, so it is no reserved word. -/
def Usable : NamePlace → Prop
  | sender s | payload s | handler s => Lua.BecomesName s
  | caller leads id => Lua.BecomesName (stem leads id)
  | hook s | constructor s => s.toList.all Lua.isLowerPart = true
  | parameter s | field s => s.toList.all Lua.isNamePart = true ∧ s ∉ Lua.reservedWords
  | constant s _ => (s.toList.head?.all fun c => !c.isDigit) = true ∧ s.toList.all Lua.isUpperPart = true

end NamePlace

/-- The places for names in the realtime module. -/
inductive RealtimeName (m : Manifest) (realtime api : Proto.Document) : NamePlace → Prop where
  | sender {e : MessageEntry} : e ∈ keptMessages realtime m → RealtimeName m realtime api (.sender e.name)
  | payload {e : MessageEntry} : e ∈ keptMessages realtime m → RealtimeName m realtime api (.payload e.name)
  | parameter {e : MessageEntry} {f : Proto.Field} :
    e ∈ keptMessages realtime m → f ∈ realtime.fieldsOf e.name → RealtimeName m realtime api (.parameter f.name)
  | field {e : MessageEntry} {f : Proto.Field} :
    e ∈ keptMessages realtime m → f ∈ realtime.fieldsOf e.name → RealtimeName m realtime api (.field f.name)
  | hook {e : EventEntry} : e ∈ keptEvents realtime api m → RealtimeName m realtime api (.hook e.name)
  | handler {e : EventEntry} : e ∈ keptEvents realtime api m → RealtimeName m realtime api (.handler e.name)

/-- The places for names in the REST module. -/
inductive RestName (d : Document) (settings : Settings) : NamePlace → Prop where
  | caller {path : String} {method : Api.Method} {raw : Json.Value} {o : Operation} {id : String}
      {e : Api.Endpoint} :
    (path, method, raw) ∈ d.operations → Operation.decode raw = .ok o → o.id = some id →
      d.endpoint settings path method raw = .ok e → RestName d settings (.caller settings.namespaceLeads id)
  | constructor {name : String} {s : Api.Schema} :
    (name, s) ∈ d.definitions → Rest.isConstructed (d.definition name s) = true →
      RestName d settings (.constructor name)
  | constant {name value : String} {s : Api.Schema} :
    (name, s) ∈ d.definitions → value ∈ (d.definition name s).enumeration →
      RestName d settings (.constant name value)

/-! ## Texts of places -/

namespace NamePlace

theorem printed_caller (leads : List String) (id : String) :
    (caller leads id).printed = normalize (stem leads id) := by
  rw [printed, stem, Identifier.dropLeads]
  cases (Identifier.ofName id).remainder? leads <;> rfl

variable {p : NamePlace} {ps : List Piece}

theorem IsIn.of_function (hbefore : p.before = "function M.") (hbehind : p.behind = "(")
    (h : [.function p.printed] <:+: ps) : p.IsIn (String.ofList (printPieces ps)) := by
  rw [IsIn, String.toList_ofList, hbefore, hbehind, ← Template.chars_function]
  exact Template.chars_infix h

theorem IsIn.of_text (h : [.text p.before, .text p.printed, .text p.behind] <:+: ps) :
    p.IsIn (String.ofList (printPieces ps)) := by
  rw [IsIn, String.toList_ofList]
  exact Template.text_infix h

end NamePlace

/-! ## The realtime module -/

section Realtime

variable {m : Manifest} {realtime api : Proto.Document} {p : NamePlace}

theorem RealtimeName.isIn (hp : RealtimeName m realtime api p) :
    p.IsIn (String.ofList (printPieces (Realtime.modulePieces ((keptMessages realtime m).map (sentMessage realtime))
      ((keptEvents realtime api m).map fun e => .ofName e.name)))) := by
  cases hp with
  | @sender e he =>
    exact .of_function rfl rfl (Realtime.infix_of_message (List.mem_map_of_mem he)
      (Realtime.infix_senderPieces_function (.ofMessage (sentMessage realtime e))))
  | @payload e he =>
    exact .of_text (Realtime.infix_of_message (List.mem_map_of_mem he)
      (Realtime.infix_senderPieces_payload (.ofMessage (sentMessage realtime e))))
  | @parameter e f he hf =>
    rw [NamePlace.IsIn, String.toList_ofList]
    refine (Realtime.infix_signature (m := sentMessage realtime e) hf).trans
      (Template.chars_infix (p := .text (Realtime.MessageContext.ofMessage (sentMessage realtime e)).signature) ?_)
    exact Realtime.infix_of_message (List.mem_map_of_mem he) (Realtime.infix_senderPieces_signature _)
  | @field e f he hf =>
    have hfield : Realtime.FieldContext.ofField f ∈ (Realtime.MessageContext.ofMessage (sentMessage realtime e)).fields :=
      List.mem_map_of_mem hf
    exact .of_text (Realtime.infix_of_message (List.mem_map_of_mem he) (Realtime.infix_senderPieces_field hfield))
  | @hook e he =>
    exact .of_function rfl rfl (Realtime.infix_of_event (List.mem_map_of_mem he)
      (Realtime.infix_hookPieces_function (.ofEvent (.ofName e.name))))
  | @handler e he =>
    exact .of_text (Realtime.infix_of_event (List.mem_map_of_mem he)
      (Realtime.infix_hookPieces_handler (.ofEvent (.ofName e.name))))

theorem isName_field_iff {f : Proto.Field} (hf : f.HasNameStart) : Lua.isName f.name = true ↔
    f.name.toList.all Lua.isNamePart = true ∧ f.name ∉ Lua.reservedWords := by
  obtain ⟨c, cs, hname, hstart⟩ := hf
  rw [Lua.isName_iff]
  refine and_iff_right ?_
  simp [Lua.startsUndigit, hname, Lua.not_isDigit_of_isNameStart hstart]

theorem RealtimeName.isName_printed_iff (hp : RealtimeName m realtime api p) :
    Lua.isName p.printed = true ↔ p.Usable := by
  cases hp with
  | sender | payload | handler => exact Lua.isName_normalize_iff _
  | parameter _ hf | field _ hf => exact isName_field_iff (Proto.Document.hasNameStart_of_mem_fieldsOf hf)
  | hook => exact Lua.isName_lead_normalize_iff (by decide) (by decide) (by decide) _

theorem isName_of_mem_realtimeSkeleton : ∀ n ∈ Realtime.skeletonNames, Lua.isName n = true := by
  decide

/-- The module assigns no name but those of its skeleton and of its places. -/
theorem RealtimeName.of_mem_assigned {n : String}
    (hn : n ∈ assigned (Realtime.modulePieces ((keptMessages realtime m).map (sentMessage realtime))
      ((keptEvents realtime api m).map fun e => .ofName e.name))) :
    Lua.isName n = true ∨ ∃ p, RealtimeName m realtime api p ∧ p.printed = n := by
  rw [(Realtime.assigned_modulePieces ..).mem_iff, List.mem_append, List.mem_append, List.map_map, List.map_map] at hn
  rcases hn with hn | hn | hn
  · exact .inl (isName_of_mem_realtimeSkeleton n hn)
  · obtain ⟨e, he, rfl⟩ := List.mem_map.1 hn
    exact .inr ⟨_, .sender he, rfl⟩
  · obtain ⟨e, he, rfl⟩ := List.mem_map.1 hn
    exact .inr ⟨_, .hook he, rfl⟩

end Realtime

/-! ## The REST module -/

section Rest

variable {d : Document} {settings : Settings} {r : Api.Resolved} {p : NamePlace}

theorem RestName.isIn (hr : d.resolve settings = .ok r) (hp : RestName d settings p) :
    p.IsIn (String.ofList (printPieces (Rest.modulePieces r.endpoints r.definitions d.info))) := by
  cases hp with
  | @caller path method raw o id e hop ho hid he =>
    have hmem := (Document.mem_endpoints_iff hr).2 ⟨_, hop, he⟩
    obtain ⟨o', id', shared, ho', hid', rfl⟩ := Document.endpoint_eq_ok he
    obtain rfl : o = o' := Except.ok.inj (ho.symm.trans ho')
    rw [Document.operationId?, hid, Option.map_eq_some_iff] at hid'
    obtain ⟨x, hx, rfl⟩ := hid'
    obtain rfl : id = x := Option.some_inj.1 (Option.filter_eq_some_iff.1 hx).1
    exact .of_function rfl rfl (Rest.infix_of_endpoint hmem
      (Rest.infix_callerPieces_function (.ofEndpoint (d.endpointOf ..))))
  | @constructor name s hd hc =>
    have hmem := (Document.mem_definitions_iff hr).2 ⟨_, hd, rfl⟩
    exact .of_function rfl rfl (Rest.infix_of_constructed hmem hc
      (Rest.infix_constructorPieces_function (.ofDefinition (d.definition name s))))
  | @constant name value s hd hv =>
    have hmem := (Document.mem_definitions_iff hr).2 ⟨_, hd, rfl⟩
    have hin := Template.chars_infix (Rest.infix_of_constant r.endpoints d.info hmem hv)
    rw [NamePlace.IsIn, String.toList_ofList]
    refine .trans ⟨[], (Lua.escapeString value).toList ++ "\"\n".toList, ?_⟩ hin
    rw [Template.chars_constant]
    simp [NamePlace.before, NamePlace.behind, NamePlace.printed, Document.definition]

theorem RestName.isName_printed_iff (hp : RestName d settings p) : Lua.isName p.printed = true ↔ p.Usable := by
  cases hp with
  | caller =>
    rw [NamePlace.printed_caller]
    exact Lua.isName_normalize_iff _
  | constructor =>
    exact Lua.isName_lead_normalize_iff (by decide) (by decide) (by decide) _
  | @constant name value =>
    have hends : (value.toList.map fun c => if c.isAlphanum then c else '_').all Lua.isNamePart = true := by
      rw [List.all_map, List.all_eq_true]
      intro c _
      by_cases hc : c.isAlphanum = true <;> simp [Lua.isNamePart, hc, separator]
    have hname : (ConstantContext.ofValue name value).name = Lua.constantName name ++ String.ofList (separator ::
        value.toList.map fun c => if c.isAlphanum then c else '_') := by
      rw [ConstantContext.ofValue, ConstantContext.nameEnd, ← String.toList_inj]
      simp [separator]
    rw [NamePlace.printed, hname]
    exact Lua.isName_constantName_iff hends name

theorem isName_of_mem_restSkeleton : ∀ n ∈ Rest.skeletonNames, Lua.isName n = true := by
  decide

/-- Every endpoint is called by a function of its own. -/
theorem RestName.exists_caller (hr : d.resolve settings = .ok r) {e : Api.Endpoint} (he : e ∈ r.endpoints) :
    ∃ id, RestName d settings (.caller settings.namespaceLeads id) ∧
      (NamePlace.caller settings.namespaceLeads id).printed = e.operationId.text := by
  obtain ⟨⟨path, method, raw⟩, hop, hend⟩ := (Document.mem_endpoints_iff hr).1 he
  obtain ⟨o, id, shared, ho, hid, rfl⟩ := Document.endpoint_eq_ok hend
  obtain ⟨x, hx, rfl⟩ := Option.map_eq_some_iff.1 hid
  exact ⟨_, .caller hop ho (Option.filter_eq_some_iff.1 hx).1 hend, rfl⟩

/-- The module assigns no name but those of its skeleton and of its places. -/
theorem RestName.of_mem_assigned (hr : d.resolve settings = .ok r) {n : String}
    (hn : n ∈ assigned (Rest.modulePieces r.endpoints r.definitions d.info)) :
    Lua.isName n = true ∨ ∃ p, RestName d settings p ∧ p.printed = n := by
  rw [Rest.assigned_modulePieces, List.mem_append, List.mem_append, List.mem_append] at hn
  rcases hn with hn | hn | hn | hn
  · exact .inl (isName_of_mem_restSkeleton n hn)
  · obtain ⟨c, hc, hn⟩ := List.mem_flatMap.1 hn
    obtain ⟨value, hv, rfl⟩ := List.mem_map.1 hn
    obtain ⟨⟨name, s⟩, hd, rfl⟩ := (Document.mem_definitions_iff hr).1 (List.mem_filter.1 hc).1
    exact .inr ⟨_, .constant hd hv, rfl⟩
  · obtain ⟨c, hc, rfl⟩ := List.mem_map.1 hn
    obtain ⟨⟨name, s⟩, hd, rfl⟩ := (Document.mem_definitions_iff hr).1 (List.mem_filter.1 hc).1
    exact .inr ⟨_, .constructor hd (List.mem_filter.1 hc).2, rfl⟩
  · obtain ⟨e, he, rfl⟩ := List.mem_map.1 hn
    obtain ⟨id, hp, hprinted⟩ := exists_caller hr he
    exact .inr ⟨_, hp, hprinted⟩

end Rest

/-! ## Runs -/

/-- Which places of a module have names. Every place is in the module that a run makes, and has a name
just if what is declared for it is suitable. The names that a module assigns are those of its places
and of its skeleton. The latter, and the arguments of REST functions, are always names. -/
theorem names_usable_iff {m : Manifest} (h : m.problem? = none) :
    (∀ realtimeText apiText : String,
      let realtime := Proto.Document.ofText realtimeText
      let api := Proto.Document.ofText apiText
      let pieces := Realtime.modulePieces ((keptMessages realtime m).map (sentMessage realtime))
        ((keptEvents realtime api m).map fun e => .ofName e.name)
      ∃ gen, (Generator.mk m .builtin h).realtime realtimeText apiText = .ok gen ∧
        gen.content = String.ofList (printPieces pieces) ∧
        (∀ p, RealtimeName m realtime api p → p.IsIn gen.content ∧ (Lua.isName p.printed = true ↔ p.Usable)) ∧
        ∀ n ∈ assigned pieces, Lua.isName n = true ∨ ∃ p, RealtimeName m realtime api p ∧ p.printed = n) ∧
    ∀ (text : String) (d : Document), Document.ofText text = .ok d →
      ∃ r gen, d.resolve m.settings = .ok r ∧ (Generator.mk m .builtin h).rest text = .ok gen ∧
        let pieces := Rest.modulePieces r.endpoints r.definitions d.info
        gen.content = String.ofList (printPieces pieces) ∧
        (∀ p, RestName d m.settings p → p.IsIn gen.content ∧ (Lua.isName p.printed = true ↔ p.Usable)) ∧
        (∀ n ∈ assigned pieces, Lua.isName n = true ∨ ∃ p, RestName d m.settings p ∧ p.printed = n) ∧
        (∀ e ∈ r.endpoints, ∀ x ∈ Rest.EndpointContext.argumentNames e, Lua.isName x = true) ∧
        ∀ c ∈ r.definitions, ∀ p ∈ c.properties, Lua.isName p.argument = true := by
  refine ⟨fun realtimeText apiText => ?_, fun text d hd => ?_⟩
  · exact ⟨_, realtime_builtin h realtimeText apiText, rfl, fun p hp => ⟨hp.isIn, hp.isName_printed_iff⟩,
      fun n => RealtimeName.of_mem_assigned⟩
  · obtain ⟨r, hr⟩ : ∃ r, d.resolve m.settings = .ok r := ⟨_, Document.resolve_eq d m.settings⟩
    exact ⟨r, _, hr, rest_builtin h hd hr, rfl, fun p hp => ⟨hp.isIn hr, hp.isName_printed_iff⟩,
      fun n => RestName.of_mem_assigned hr, fun e he x => Rest.isName_argument hr he, fun c hc p => Rest.isName_property hr hc⟩

/-- A document with a definition that has a constructor. -/
def userText : String := "\x7b\"definitions\":\x7b\"User\":\x7b\"properties\":\x7b\"id\":\x7b\x7d\x7d\x7d\x7d\x7d"

/-- The function that sends a message and the constructor of a definition have names. -/
theorem names_usable_iff_ping :
    pingManifest.problem? = none ∧
    (∃ gen, (Generator.mk pingManifest .builtin (by decide)).realtime "message Ping \x7b\n\x7d" "" = .ok gen ∧
      "function M.ping(".toList <:+: gen.content.toList ∧ Lua.isName "ping" = true) ∧
    ∃ d gen, Document.ofText userText = .ok d ∧
      (Generator.mk pingManifest .builtin (by decide)).rest userText = .ok gen ∧
      "function M.create_user(".toList <:+: gen.content.toList ∧ Lua.isName "create_user" = true := by
  obtain ⟨hrealtime, hrest⟩ := names_usable_iff (m := pingManifest) (by decide)
  obtain ⟨gen, hgen, -, hplace, -⟩ := hrealtime "message Ping \x7b\n\x7d" ""
  obtain ⟨d, -, hd, -, hdefined⟩ : ∃ d r, Document.ofText userText = .ok d ∧ d.resolve {} = .ok r ∧
      ∃ entry ∈ d.definitions, entry.1 = "User" ∧ Rest.isConstructed (d.definition entry.1 entry.2) = true :=
    Document.exists_resolved (by decide +kernel)
  obtain ⟨⟨name, s⟩, hmem, rfl, hconstructed⟩ := hdefined
  obtain ⟨r, gen', hr, hgen', -, hplace', -⟩ := hrest userText d hd
  obtain ⟨hin, hname⟩ := hplace _ (.sender (e := ⟨"Ping", true⟩) (by decide +kernel))
  obtain ⟨hin', hname'⟩ := hplace' _ (.constructor hmem hconstructed)
  have hping : (NamePlace.sender "Ping").printed = "ping" := by decide
  have huser : (NamePlace.constructor "User").printed = "create_user" := by decide
  rw [NamePlace.IsIn, hping] at hin
  rw [NamePlace.IsIn, huser] at hin'
  rw [hping] at hname
  rw [huser] at hname'
  refine ⟨by decide, ⟨gen, hgen, hin, hname.2 ?_⟩, d, gen', hd, hgen', hin', hname'.2 ?_⟩
  · exact ⟨by decide, by decide, by decide⟩
  · rw [NamePlace.Usable]
    decide

/-- A document with an operation that is called as a reserved word is, and an enumeration with a dash in
its name. -/
def endText : String :=
  "\x7b\"paths\":\x7b\"/e\":\x7b\"get\":\x7b\"operationId\":\"end\"\x7d\x7d\x7d," ++
  "\"definitions\":\x7b\"my-def\":\x7b\"enum\":[\"A\"]\x7d\x7d\x7d"

/-- Neither makes a name. -/
theorem names_unusable_end :
    ∃ d gen, Document.ofText endText = .ok d ∧
      (Generator.mk ⟨[], [], {}⟩ .builtin (by decide)).rest endText = .ok gen ∧
      "function M.end(".toList <:+: gen.content.toList ∧ Lua.isName "end" = false ∧
      "M.MY-DEF_A = \"".toList <:+: gen.content.toList ∧ Lua.isName "MY-DEF_A" = false := by
  obtain ⟨d, r, hd, hr, ⟨e, he, hid⟩, ⟨name, s⟩, hmem, hname, hvalue⟩ :
      ∃ d r, Document.ofText endText = .ok d ∧ d.resolve {} = .ok r ∧
        (∃ e ∈ r.endpoints, e.operationId.text = "end") ∧
        ∃ entry ∈ d.definitions, entry.1 = "my-def" ∧ "A" ∈ (d.definition entry.1 entry.2).enumeration :=
    Document.exists_resolved (by decide +kernel)
  obtain ⟨id, hp, hprinted⟩ := RestName.exists_caller hr he
  have hcaller := hp.isIn hr
  subst hname
  have hplace : RestName d {} (.constant "my-def" "A") := .constant hmem hvalue
  have hconstant := hplace.isIn hr
  rw [NamePlace.IsIn, hprinted, hid] at hcaller
  rw [NamePlace.IsIn, show (NamePlace.constant "my-def" "A").printed = "MY-DEF_A" by decide] at hconstant
  exact ⟨d, _, hd, rest_builtin (by decide) hd hr, hcaller, by decide, hconstant, by decide⟩

end LuaStubs.Generator
