import LuaStubs.Proofs.Entries
import LuaStubs.Template.Set

/-!
# Sources of the built-in templates

What is read of the sources of the built-in templates has the parts of the nodes of
`TemplateSet.builtin`, which may have a text in several nodes (`follows`). So the set
that registers the sources renders every template as `TemplateSet.builtin` does
(`exists_ofSources`).
-/

namespace LuaStubs.Template

/-! ## Texts in several nodes -/

mutual

/-- Whether a node is made of the same parts as another one. -/
def followsNode : Node → Node → Bool
  | .print p, .print q => p == q
  | .choice b p xs ys, .choice c q zs ws => b == c && p == q && follows xs zs && follows ys ws
  | .loop p xs none, .loop q ys none => p == q && follows xs ys
  | _, _ => false

/-- Whether nodes are made of the same parts as others, which may have a text in several nodes. -/
def follows : List Node → List Node → Bool
  | xs, .text t :: ys =>
    match xs with
    | .text s :: xs =>
      match Text.dropLead? t s with
      | some [] => follows xs ys
      | some rest => follows (.text rest :: xs) ys
      | none => false
    | _ => false
  | x :: xs, y :: ys => followsNode x y && follows xs ys
  | [], [] => true
  | _, _ => false

end

variable {scope : Scope}

theorem renderAll_cons (x : Node) (xs : List Node) : renderAll scope (x :: xs) =
    (render scope x).bind fun first => (renderAll scope xs).map fun rest => first ++ rest := by
  rw [renderAll]
  cases render scope x <;> cases renderAll scope xs <;> rfl

/-- A text may be divided. -/
theorem renderAll_text_append (s t : List Char) (xs : List Node) :
    renderAll scope (.text (s ++ t) :: xs) = (renderAll scope (.text t :: xs)).map (s ++ ·) := by
  rw [renderAll_cons, renderAll_cons, render, render]
  cases renderAll scope xs with
  | none => rfl
  | some rest => simp only [Option.bind_some, Option.map_some, List.append_assoc]

theorem renderAll_text_cons (s : List Char) (xs : List Node) :
    renderAll scope (.text s :: xs) = (renderAll scope xs).map (s ++ ·) := by
  rw [renderAll_cons, render, Option.bind_some]

/-- Nodes that are made of the same parts are filled in alike. -/
theorem renderAll_of_follows {xs ys : List Node} (h : follows xs ys = true) (scope : Scope) :
    renderAll scope xs = renderAll scope ys := by
  revert scope
  revert h
  refine follows.induct (fun x y => followsNode x y = true → ∀ scope, render scope x = render scope y)
    (fun xs ys => follows xs ys = true → ∀ scope, renderAll scope xs = renderAll scope ys)
    ?print ?choice ?loop ?other ?whole ?part ?mismatch ?notText ?cons ?nil ?length xs ys
  case print =>
    intro p q h scope
    rw [followsNode, beq_iff_eq] at h
    rw [h]
  case choice =>
    intro b p xs ys c q zs ws ihbody ihelse h scope
    rw [followsNode] at h
    simp only [Bool.and_eq_true, beq_iff_eq] at h
    obtain ⟨⟨⟨rfl, rfl⟩, hbody⟩, helse⟩ := h
    rw [render, render, ihbody hbody scope, ihelse helse scope]
  case loop =>
    intro p xs q ys ih h scope
    rw [followsNode] at h
    simp only [Bool.and_eq_true, beq_iff_eq] at h
    obtain ⟨rfl, hbody⟩ := h
    have hturn : (fun turn => renderAll turn xs) = fun turn => renderAll turn ys := funext fun turn => ih hbody turn
    rw [render.eq_def, render.eq_def]
    dsimp only
    rw [hturn]
  case other =>
    intro x y hprint hchoice hloop h
    rw [followsNode] at h
    · cases h
    · exact hprint
    · exact hchoice
    · exact hloop
  case whole =>
    intro t ys s xs hdrop ih h scope
    rw [follows, hdrop] at h
    rw [renderAll_text_cons, renderAll_text_cons, ih h scope, Text.dropLead?_eq_some_iff.1 hdrop, List.append_nil]
  case part =>
    intro t ys s xs rest hne hdrop ih h scope
    rw [follows, hdrop] at h
    have hrest := ih (by simpa using h) scope
    rw [Text.dropLead?_eq_some_iff.1 hdrop, renderAll_text_append, hrest, renderAll_text_cons]
  case mismatch =>
    intro t ys s xs hdrop h
    rw [follows, hdrop] at h
    cases h
  case notText =>
    intro xs t ys hne h
    rw [follows] at h
    · cases h
    · exact hne
  case cons =>
    intro x xs y ys hy ihx ihxs h scope
    rw [follows] at h
    · rw [Bool.and_eq_true] at h
      rw [renderAll_cons, renderAll_cons, ihx h.1 scope, ihxs h.2 scope]
    · exact hy
  case nil =>
    intro _ scope
    rfl
  case length =>
    intro xs ys htext hcons hnil h
    rw [follows] at h
    · cases h
    all_goals assumption

/-! ## Sources -/

/-- The built-in templates by name, each with its source and its nodes. -/
def written : List (String × List String × List Node) :=
  [("realtime/socket", socketSource, Builtin.Realtime.socketModule),
   ("realtime/message", messageSource, Builtin.Realtime.message),
   ("realtime/event", eventSource, Builtin.Realtime.event),
   ("rest/client", clientSource, Builtin.Rest.clientModule),
   ("rest/endpoint", endpointSource, Builtin.Rest.endpoint),
   ("rest/definition", definitionSource, Builtin.Rest.definition),
   ("rest/enum", enumerationSource, Builtin.Rest.enumeration)]

theorem sources_eq : sources = written.map fun template => (template.1, template.2.1) := rfl

/-! ## Reading the sources -/

/-- The nodes of the characters of a source. -/
def parseChars? (s : List Char) : Option (List Node) := do
  let cut ← cut? (s.length + 1) s
  nest? [] [] cut.tokens

/-- Whether a source is read as nodes with the same parts as the given ones. -/
def readsAs (source : List String) (nodes : List Node) : Bool :=
  (parseChars? (Builtin.linesText source)).any fun read => follows read nodes

theorem exists_parse?_of_readsAs {source : List String} {nodes : List Node} (h : readsAs source nodes = true) :
    ∃ read, parse? (sourceText source) = some read ∧ follows read nodes = true := by
  rw [readsAs, Option.any_eq_true] at h
  rw [parse?, sourceText, String.toList_ofList]
  exact h

theorem linesText_ofList {line : List Char} {xs : List String} :
    Builtin.linesText (String.ofList line :: xs) = line ++ '\n' :: Builtin.linesText xs := by
  rw [Builtin.linesText, List.flatMap_cons, String.toList_ofList, List.append_assoc]
  rfl

theorem text_ofList {s : List Char} : Builtin.text (String.ofList s) = .text s := by
  rw [Builtin.text, String.toList_ofList]

open Builtin.Realtime (socketModule socketStart socketEnd message event) in
open Builtin.Rest (clientModule clientStart endpoint definition enumeration) in
/-- Every source is read as the nodes of its template. -/
theorem readsAs_written : ∀ template ∈ written, readsAs template.2.1 template.2.2 = true := by
  intro template h
  simp only [written, List.mem_cons, List.not_mem_nil, or_false] at h
  rcases h with rfl | rfl | rfl | rfl | rfl | rfl | rfl
  all_goals
    dsimp only [readsAs, socketSource, messageSource, eventSource, clientSource, endpointSource, definitionSource,
      enumerationSource, socketModule, socketStart, socketEnd, message, event, clientModule, clientStart, endpoint,
      definition, enumeration, Builtin.lines, List.tail_cons, List.cons_append, List.nil_append]
    -- The characters of the texts are brought into the goal, so that no literal has to be decoded.
    repeat rw [linesText_ofList]
    repeat rw [text_ofList]
    decide +kernel

/-- Every source can be read. -/
theorem exists_parse?_of_mem_sources {source : String × List String} (h : source ∈ sources) :
    ∃ nodes, parse? (sourceText source.2) = some nodes := by
  rw [sources_eq, List.mem_map] at h
  obtain ⟨template, htemplate, rfl⟩ := h
  obtain ⟨nodes, hread, -⟩ := exists_parse?_of_readsAs (readsAs_written template htemplate)
  exact ⟨nodes, hread⟩

/-- The marks of a loop leave no line of their own. -/
example : readsAs ["\x7b\x7b#each b\x7d\x7d", "- \x7b\x7bthis\x7d\x7d", "\x7b\x7b/each\x7d\x7d"]
    [Builtin.each "b" [Builtin.text "- ", Builtin.item, Builtin.text "\n"]] = true := by
  decide +kernel

/-! ## Registering the sources -/

/-- The nodes that are read of a source. -/
def readNodes (source : List String) : List Node := (parse? (sourceText source)).getD []

end LuaStubs.Template

namespace LuaStubs.TemplateSet

open Template (Engine Node readsAs readNodes sourceText written)

/-- Sources under new names are registered one behind the other. -/
theorem registerAll_eq_ok {templates : List (String × List String × List Node)} {entries : Entries (List Node)}
    (hreads : ∀ template ∈ templates, readsAs template.2.1 template.2.2 = true)
    (hnames : (entries.keys ++ templates.map Prod.fst).Nodup) :
    registerAll ⟨entries⟩ (templates.map fun template => (template.1, template.2.1)) =
      .ok ⟨entries ++ templates.map fun template => (template.1, readNodes template.2.1)⟩ := by
  induction templates generalizing entries with
  | nil => simp [registerAll]; rfl
  | cons template rest ih =>
    obtain ⟨name, source, nodes⟩ := template
    obtain ⟨read, hread, -⟩ := Template.exists_parse?_of_readsAs (hreads _ List.mem_cons_self)
    have hread' : readNodes source = read := by rw [readNodes, hread, Option.getD_some]
    have hname : name ∉ entries.keys := fun hmem =>
      (List.nodup_append.1 hnames).2.2 name hmem name List.mem_cons_self rfl
    have hregister : register ⟨entries⟩ name (sourceText source) = .ok ⟨entries ++ [(name, read)]⟩ := by
      rw [register, Engine.parse?_nodes, hread, ← Entries.put_of_not_mem hname]
    have hnames' : ((entries ++ [(name, read)]).keys ++ rest.map Prod.fst).Nodup := by
      rw [Entries.keys, List.map_append, List.append_assoc]
      exact hnames
    have hrest := ih (fun template h => hreads template (List.mem_cons_of_mem _ h)) hnames'
    rw [registerAll, List.map_cons, List.foldlM_cons, hregister]
    rw [registerAll, List.append_assoc] at hrest
    rw [List.map_cons, hread']
    exact hrest

/-- What is read of the sources is filled in as the nodes are. -/
theorem render_readNodes {templates : List (String × List String × List Node)}
    (hreads : ∀ template ∈ templates, readsAs template.2.1 template.2.2 = true) (name : String) (context : Json.Value) :
    render ⟨templates.map fun template => (template.1, readNodes template.2.1)⟩ name context =
      render ⟨templates.map fun template => (template.1, template.2.2)⟩ name context := by
  have hbind : ((Entries.get? name (templates.map fun template => (template.1, readNodes template.2.1))).bind
        fun nodes => (Template.renderAll ⟨context, []⟩ nodes).map String.ofList) =
      (Entries.get? name (templates.map fun template => (template.1, template.2.2))).bind
        fun nodes => (Template.renderAll ⟨context, []⟩ nodes).map String.ofList := by
    induction templates with
    | nil => rfl
    | cons template rest ih =>
      obtain ⟨key, source, nodes⟩ := template
      obtain ⟨read, hread, hfollows⟩ := Template.exists_parse?_of_readsAs (hreads _ List.mem_cons_self)
      rw [List.map_cons, List.map_cons, Entries.get?_cons, Entries.get?_cons]
      split
      · rw [readNodes, hread, Option.bind_some, Option.bind_some, Option.getD_some,
          Template.renderAll_of_follows hfollows _]
      · exact ih fun template h => hreads template (List.mem_cons_of_mem _ h)
  simp only [render, Engine.fill?_nodes]
  rw [hbind]

/-- Registering the sources of the built-in templates gives a set that renders as the built-in one. -/
theorem exists_ofSources : ∃ set : TemplateSet, ofSources = .ok set ∧
    ∀ name context, set.render name context = builtin.render name context := by
  have hnames : (Entries.keys ([] : Entries (List Node)) ++ written.map Prod.fst).Nodup := by
    decide
  refine ⟨_, ?_, fun name context => render_readNodes Template.readsAs_written name context⟩
  rw [ofSources, Template.sources_eq]
  exact registerAll_eq_ok Template.readsAs_written hnames

end LuaStubs.TemplateSet
