import LuaStubs.Api.Document
import LuaStubs.Proofs.Entries
import LuaStubs.Proofs.Json.Agreement

/-!
# Outlines and values

The outer levels of a document are decoded while its text is read. What they hold
is what the text holds as a JSON value (`agrees_ofText`): the path items of an
outline are the members of the value of `paths`, every one of which is an object, and
its definitions are the members of the value of `definitions`.
-/

namespace LuaStubs.Api

open Json (Agrees Reader Value bind_eq_ok readValue_eq_ok)

variable {α σ : Type}

/-! ## Readers of parts -/

/-- A value that is not of the wanted shape is never read. -/
theorem readMismatch_ne_ok {wanted : Json.Wanted} {s : List Char} {x : α × List Char} :
    readMismatch wanted s ≠ .ok x := by
  intro h
  unfold readMismatch at h
  dsimp only at h
  split at h
  case h_9 =>
    split at h
    · obtain ⟨_, _, h⟩ := bind_eq_ok.1 h
      cases h
    · cases h
  all_goals first
    | cases h
    | obtain ⟨_, _, h⟩ := bind_eq_ok.1 h
      cases h

theorem readKept_agrees (depth : Nat) : Agrees (readKept depth) fun x v => v = x :=
  fun _ _ _ _ _ _ _ h h' => Json.readValue_agrees h h'

theorem readText?_agrees : Agrees readText? fun x v => v = .ofString? x := by
  intro s r r' x fuel room v h h'
  cases fuel with
  | zero => cases h'
  | succ fuel =>
    rw [readText?] at h
    rw [Json.readValue] at h'
    split at h
    · next rest hs =>
      rw [hs] at h'
      obtain ⟨rest₁, hword, h⟩ := bind_eq_ok.1 h
      obtain ⟨rest₂, hword', h'⟩ := bind_eq_ok.1 h'
      cases h
      cases h'
      cases hword.symm.trans hword'
      exact ⟨rfl, rfl⟩
    · next rest hs =>
      rw [hs] at h'
      obtain ⟨⟨text₁, rest₁⟩, htext, h⟩ := bind_eq_ok.1 h
      obtain ⟨⟨text₂, rest₂⟩, htext', h'⟩ := bind_eq_ok.1 h'
      cases h
      cases h'
      cases htext.symm.trans htext'
      exact ⟨rfl, rfl⟩
    · exact absurd h readMismatch_ne_ok

/-- Behind a brace there is an object. -/
theorem exists_members {fuel room : Nat} {s rest r : List Char} {v : Value} (hs : Json.skipSpace s = '\x7b' :: rest)
    (h : Json.readValue fuel room s = .ok (v, r)) : ∃ fuel' room' members, v = .object members ∧
      Json.readMembers (Json.readEntry (Json.readValue fuel' room')) fuel' true [] rest = .ok (members, r) := by
  rcases readValue_eq_ok h with ⟨f, room', rest', items, -, hs', -, -⟩ | ⟨f, room', rest', members, -, hs', rfl, h⟩ | h
  · cases hs.symm.trans hs'
  · cases hs.symm.trans hs'
    exact ⟨_, _, _, rfl, h⟩
  · rw [Json.readValue, hs] at h
    cases h

/-- Behind a bracket there is an array. -/
theorem exists_items {fuel room : Nat} {s rest r : List Char} {v : Value} (hs : Json.skipSpace s = '[' :: rest)
    (h : Json.readValue fuel room s = .ok (v, r)) : ∃ fuel' room' items, v = .array items ∧
      Json.readItems (Json.readValue fuel' room') fuel' true rest = .ok (items, r) := by
  rcases readValue_eq_ok h with ⟨f, room', rest', items, -, hs', rfl, h⟩ | ⟨f, room', rest', members, -, hs', -, -⟩ | h
  · cases hs.symm.trans hs'
    exact ⟨_, _, _, rfl, h⟩
  · cases hs.symm.trans hs'
  · rw [Json.readValue, hs] at h
    cases h

theorem readEntries_agrees {value : Reader α} {f : α → Value} (hvalue : Agrees value fun x v => v = f x) :
    Agrees (readEntries value) fun es v => v = .object (es.map fun e => (e.1, f e.2)) := by
  intro s r r' es fuel room v h h'
  rw [readEntries] at h
  split at h
  · next rest hs =>
    obtain ⟨f', room', members, rfl, hmembers⟩ := exists_members hs h'
    have hagree := Json.readMembers_agree (R := fun es ms => ms = es.map fun e => (e.1, f e.2))
      (fun es ms key reader reader' s es' ms' r r' hR hreader hreader' hread hread' => by
        obtain ⟨x, hx, rfl⟩ := Json.readEntry_eq_ok hreader hread
        obtain ⟨v, hv, rfl⟩ := Json.readEntry_eq_ok hreader' hread'
        obtain ⟨rfl, rfl⟩ := hvalue hx hv
        rw [hR, Entries.put_map]
        exact ⟨rfl, rfl⟩) rfl h hmembers
    exact ⟨congrArg _ hagree.1, hagree.2⟩
  · exact absurd h readMismatch_ne_ok

theorem readKeptEntries_agrees (depth : Nat) : Agrees (readEntries (readKept depth)) fun es v => v = .object es :=
  (readEntries_agrees (readKept_agrees depth)).mono fun es _ hv => hv.trans (congrArg Value.object (List.map_id es))

/-! ## Records -/

theorem fieldReader_agrees {value : Reader α} {rel : α → Value → Prop} (hvalue : Agrees value rel)
    (set : α → σ → σ) (record : σ) :
    Agrees (fieldReader value set record) fun record' v => ∃ x, rel x v ∧ record' = set x record := by
  intro s r r' record' fuel room v h h'
  obtain ⟨⟨x, rest⟩, hx, h⟩ := bind_eq_ok.1 h
  cases h
  obtain ⟨hrel, rfl⟩ := hvalue hx h'
  exact ⟨⟨x, hrel, rfl⟩, rfl⟩

section Record

variable {fields : List (String × (σ → Reader σ))} {taken : String → σ → Value → σ → Prop}
  {I : Given σ → Entries Value → Prop}

/-- The items of an array taken in as the fields of a record, in their order. -/
inductive Taken (taken : String → σ → Value → σ → Prop) : List String → σ → List Value → σ → Prop
  | done (keys : List String) (record : σ) : Taken taken keys record [] record
  | item {key : String} {keys : List String} {v : Value} {items : List Value} {record record' record'' : σ}
      (head : taken key record v record') (tail : Taken taken keys record' items record'') :
      Taken taken (key :: keys) record (v :: items) record''

theorem readFields_agrees
    (hfields : ∀ key field, (key, field) ∈ fields → ∀ record, Agrees (field record) fun record' v =>
      taken key record v record') {fuel fuel' room : Nat} {first : Bool} {record record' : σ} {items : List Value}
    {s r r' : List Char} (h : Json.readFields (fields.map Prod.snd) first record s = .ok (record', r))
    (h' : Json.readItems (Json.readValue fuel room) fuel' first s = .ok (items, r')) :
    Taken taken (fields.map Prod.fst) record items record' ∧ r' = r := by
  induction fields generalizing fuel' first record items s with
  | nil =>
    rcases Json.readFields_eq_ok h with ⟨hs, rfl⟩ | ⟨-, _, _, _, _, _, hcons, -⟩
    · rcases Json.readItems_eq_ok h' with ⟨hs', rfl⟩ | ⟨hs', -⟩
      · cases hs.symm.trans hs'
        exact ⟨.done _ _, rfl⟩
      · exact absurd hs (hs' r)
    · cases hcons
  | cons field fields ih =>
    obtain ⟨key, field⟩ := field
    rcases Json.readFields_eq_ok h with ⟨hs, rfl⟩ | ⟨hs, _, _, s₁, record₁, s₂, hcons, hcomma, hfield, hrest⟩ <;>
    rcases Json.readItems_eq_ok h' with ⟨hs', rfl⟩ | ⟨hs', f', t₁, v, t₂, items', -, hcomma', hitem, hrest', rfl⟩
    · cases hs.symm.trans hs'
      exact ⟨.done _ _, rfl⟩
    · exact absurd hs (hs' r)
    · exact absurd hs' (hs r')
    · cases hcons
      cases hcomma.symm.trans hcomma'
      obtain ⟨htaken, rfl⟩ := hfields key field List.mem_cons_self record hfield hitem
      obtain ⟨htail, rfl⟩ := ih (fun key field h => hfields key field (List.mem_cons_of_mem _ h)) hrest hrest'
      exact ⟨.item htaken htail, rfl⟩

/-- The value of a key is taken in as a field that has not been given yet, or it is passed over. -/
theorem readField_cases
    (hfields : ∀ key field, (key, field) ∈ fields → ∀ record, Agrees (field record) fun record' v =>
      taken key record v record') {key : String} {g g' : Given σ} {reader : Reader (Given σ)} {s r r' : List Char}
    {fuel room : Nat} {v : Value} (hreader : readField fields g key = .ok reader) (h : reader s = .ok (g', r))
    (h' : Json.readValue fuel room s = .ok (v, r')) :
    ((∃ record, key ∉ g.keys ∧ taken key g.record v record ∧ g' = ⟨record, key :: g.keys⟩) ∨
      fields.lookup key = none ∧ g' = g) ∧ r' = r := by
  rw [readField] at hreader
  split at hreader
  · next field hlookup =>
    split at hreader
    · cases hreader
    · next hkey =>
      cases hreader
      obtain ⟨⟨record, rest⟩, hrecord, hread⟩ := bind_eq_ok.1 h
      cases hread
      obtain ⟨before, after, rfl, -⟩ := List.lookup_eq_some_iff.1 hlookup
      have hmem : (key, field) ∈ before ++ (key, field) :: after := List.mem_append_cons_self
      obtain ⟨htaken, rfl⟩ := hfields key field hmem g.record hrecord h'
      exact ⟨.inl ⟨record, hkey, htaken, rfl⟩, rfl⟩
  · next hlookup =>
    cases hreader
    obtain ⟨rest, hskip, hread⟩ := bind_eq_ok.1 h
    cases hread
    exact ⟨.inr ⟨hlookup, rfl⟩, (Json.skipValue_agrees h' hskip).symm⟩

variable (taken I) in
/-- What a record holds once its text is read. As an object, it is what an invariant says of the keys
that have been read so far and of the members that they have given. -/
theorem readRecord_agrees {name : String} {init : σ} {rel : σ → Value → Prop}
    (hfields : ∀ key field, (key, field) ∈ fields → ∀ record, Agrees (field record) fun record' v =>
      taken key record v record')
    (start : I ⟨init, []⟩ [])
    (known : ∀ g members key v record, key ∉ g.keys → I g members → taken key g.record v record →
      I ⟨record, key :: g.keys⟩ (members.put key v))
    (unknown : ∀ g members key v, fields.lookup key = none → I g members → I g (members.put key v))
    (hobject : ∀ g members, I g members → rel g.record (.object members))
    (harray : ∀ items record, Taken taken (fields.map Prod.fst) init items record → rel record (.array items)) :
    Agrees (readRecord name fields init) rel := by
  intro s r r' record fuel room v h h'
  rw [readRecord] at h
  split at h
  · next rest hs =>
    obtain ⟨f', room', members, rfl, hmembers⟩ := exists_members hs h'
    obtain ⟨⟨g, rest'⟩, hg, h⟩ := bind_eq_ok.1 h
    cases h
    have hagree := Json.readMembers_agree (R := I)
      (fun g ms key reader reader' s g' ms' r r' hI hreader hreader' hread hread' => by
        obtain ⟨v, hv, rfl⟩ := Json.readEntry_eq_ok hreader' hread'
        obtain ⟨⟨record, hkey, htaken, rfl⟩ | ⟨hlookup, rfl⟩, rfl⟩ := readField_cases hfields hreader hread hv
        · exact ⟨known g ms key v record hkey hI htaken, rfl⟩
        · exact ⟨unknown _ ms key v hlookup hI, rfl⟩) start hg hmembers
    exact ⟨hobject g members hagree.1, hagree.2⟩
  · next rest hs =>
    obtain ⟨f', room', items, rfl, hitems⟩ := exists_items hs h'
    obtain ⟨htaken, rfl⟩ := readFields_agrees hfields h hitems
    exact ⟨harray items record htaken, rfl⟩
  · exact absurd h readMismatch_ne_ok

end Record

/-! ## Documents -/

/-- A title and a version are read off the whole of a value. -/
theorem Info.read_agrees : Agrees Info.read fun _ _ => True := by
  apply readRecord_agrees (fun _ _ _ _ => True) fun _ _ => True
  case hfields =>
    intro key field hfield record
    simp only [List.mem_cons, Prod.mk.injEq, List.not_mem_nil, or_false] at hfield
    obtain ⟨-, rfl⟩ | ⟨-, rfl⟩ := hfield
    all_goals exact (fieldReader_agrees readText?_agrees _ record).mono fun _ _ _ => trivial
  all_goals intros; trivial

namespace Outline

/-- The path items as a JSON value. -/
def pathsValue (o : Outline) : Value := .object (o.paths.map fun p => (p.1, .object p.2))

/-- The definitions as a JSON value. -/
def definitionsValue (o : Outline) : Value := .object o.definitions

/-- The value that a document declares one of its parts with: a member of an object, or an item of
an array. -/
def declared? (key : String) (position : Nat) : Value → Option Value
  | .object members => Entries.get? key members
  | .array items => items[position]?
  | _ => none

/-- The value that a document declares its paths with. -/
def declaredPaths? : Value → Option Value := declared? "paths" 1

/-- The value that a document declares its definitions with. -/
def declaredDefinitions? : Value → Option Value := declared? "definitions" 2

/-! ### One part of a document -/

section Part

variable {key : String} {part : Outline → Value}

variable (key part) in
/-- What one field does to a part: the field of its key sets it, and no other one changes it. -/
def PartTaken (field : String) (o : Outline) (v : Value) (o' : Outline) : Prop :=
  if field = key then v = part o' else part o' = part o

variable (key part) in
/-- The members that have been read hold the part of the outline that they have given. -/
structure PartRead (g : Given Outline) (members : Entries Value) : Prop where
  some_of_mem : key ∈ g.keys → Entries.get? key members = some (part g.record)
  none_of_not_mem : key ∉ g.keys → Entries.get? key members = none ∧ part g.record = part {}

/-- A member of another key leaves the part as it is. -/
theorem PartRead.put_of_ne {g g' : Given Outline} {members : Entries Value} {field : String} {v : Value}
    (hkey : field ≠ key) (hpart : part g'.record = part g.record) (hkeys : key ∈ g'.keys ↔ key ∈ g.keys)
    (h : PartRead key part g members) : PartRead key part g' (members.put field v) := by
  have hget : Entries.get? key (members.put field v) = Entries.get? key members := by
    rw [Entries.get?_put, if_neg (Ne.symm hkey)]
  constructor
  · intro hmem
    rw [hget, hpart]
    exact h.some_of_mem (hkeys.1 hmem)
  · intro hmem
    rw [hget, hpart]
    exact h.none_of_not_mem fun hold => hmem (hkeys.2 hold)

theorem PartRead.put_known {g : Given Outline} {members : Entries Value} {field : String} {v : Value} {o : Outline}
    (h : PartRead key part g members) (htaken : PartTaken key part field g.record v o) :
    PartRead key part ⟨o, field :: g.keys⟩ (members.put field v) := by
  rw [PartTaken] at htaken
  split at htaken
  · next hkey =>
    subst hkey
    constructor
    · intro _
      rw [Entries.get?_put, if_pos rfl, htaken]
    · intro hmem
      exact absurd List.mem_cons_self hmem
  · next hkey =>
    have hkeys : key ∈ field :: g.keys ↔ key ∈ g.keys := by
      rw [List.mem_cons, or_iff_right (Ne.symm hkey)]
    exact h.put_of_ne hkey htaken hkeys

/-- Of the items of an array, the one in the place of a part declares it, and the others leave it as it is. -/
theorem getD_of_taken {fields : List String} {o o' : Outline} {items : List Value}
    (h : Taken (PartTaken key part) fields o items o') (hfields : fields.Nodup) :
    (key ∉ fields → part o' = part o) ∧
      ∀ position : Nat, fields[position]? = some key → (items[position]?).getD (part o) = part o' := by
  induction h with
  | done => exact ⟨fun _ => rfl, fun _ _ => rfl⟩
  | @item field fields v items o o₁ o' head tail ih =>
    obtain ⟨hfield, hnodup⟩ := List.nodup_cons.1 hfields
    obtain ⟨hkept, hdeclared⟩ := ih hnodup
    rw [PartTaken] at head
    constructor
    · intro hkey
      obtain ⟨hne, hrest⟩ := not_or.1 (List.mem_cons.not.1 hkey)
      rw [if_neg (Ne.symm hne)] at head
      rw [hkept hrest, head]
    · intro position hposition
      cases position with
      | zero =>
        obtain rfl : field = key := Option.some.inj hposition
        rw [if_pos rfl] at head
        rw [hkept hfield, ← head]
        rfl
      | succ position =>
        have hmem : key ∈ fields := List.mem_of_getElem? hposition
        rw [if_neg (ne_of_mem_of_not_mem hmem hfield).symm] at head
        rw [← head]
        exact hdeclared position hposition

variable (part) in
/-- A document that is read holds in a part what it declares that part with. -/
theorem readRecord_agrees_part {name : String} {fields : List (String × (Outline → Reader Outline))} {position : Nat}
    (hfields : ∀ field reader, (field, reader) ∈ fields → ∀ o, Agrees (reader o) fun o' v =>
      PartTaken key part field o v o')
    (hnodup : (fields.map Prod.fst).Nodup) (hposition : (fields.map Prod.fst)[position]? = some key) :
    Agrees (readRecord name fields {}) fun o v => (declared? key position v).getD (part {}) = part o := by
  apply readRecord_agrees (PartTaken key part) (PartRead key part) hfields
  case start => exact ⟨nofun, fun _ => ⟨rfl, rfl⟩⟩
  case known =>
    intro g members field v o _ hread htaken
    exact hread.put_known htaken
  case unknown =>
    intro g members field v hlookup hread
    have hne : field ≠ key := by
      rintro rfl
      obtain ⟨entry, hentry, rfl⟩ := List.mem_map.1 (List.mem_of_getElem? hposition)
      simpa using List.lookup_eq_none_iff.1 hlookup entry hentry
    exact hread.put_of_ne hne rfl Iff.rfl
  case hobject =>
    intro g members hread
    rw [declared?]
    by_cases hmem : key ∈ g.keys
    · rw [hread.some_of_mem hmem, Option.getD_some]
    · obtain ⟨hnone, hpart⟩ := hread.none_of_not_mem hmem
      rw [hnone, Option.getD_none, hpart]
  case harray =>
    intro items o htaken
    exact (getD_of_taken htaken hnodup).2 position hposition

variable (part) in
/-- The fields of a document one by one: it is enough that each of them sets the part or leaves it as it is. -/
theorem read_agrees_part {position : Nat}
    (hinfo : ∀ o v info, PartTaken key part "info" o v { o with info })
    (hpaths : ∀ o paths, PartTaken key part "paths" o (.object (paths.map fun p => (p.1, .object p.2))) { o with paths })
    (hdefinitions : ∀ o definitions, PartTaken key part "definitions" o (.object definitions) { o with definitions })
    (hposition : ["info", "paths", "definitions"][position]? = some key) :
    Agrees read fun o v => (declared? key position v).getD (part {}) = part o := by
  refine readRecord_agrees_part part ?_ (by decide) hposition
  intro field reader hfield o
  simp only [List.mem_cons, Prod.mk.injEq, List.not_mem_nil, or_false] at hfield
  obtain ⟨rfl, rfl⟩ | ⟨rfl, rfl⟩ | ⟨rfl, rfl⟩ := hfield
  · exact (fieldReader_agrees Info.read_agrees _ o).mono fun o' v ⟨info, _, h⟩ => h ▸ hinfo o v info
  · exact (fieldReader_agrees (readEntries_agrees (readKeptEntries_agrees 3)) _ o).mono
      fun o' v ⟨paths, hv, h⟩ => hv ▸ h ▸ hpaths o paths
  · exact (fieldReader_agrees (readKeptEntries_agrees 2) _ o).mono
      fun o' v ⟨definitions, hv, h⟩ => hv ▸ h ▸ hdefinitions o definitions

end Part

/-! ### The parts of a document -/

theorem read_agrees_paths : Agrees read fun o v => (declaredPaths? v).getD (.object []) = o.pathsValue :=
  read_agrees_part pathsValue (fun _ _ _ => rfl) (fun _ _ => rfl) (fun _ _ => rfl) rfl

theorem read_agrees_definitions :
    Agrees read fun o v => (declaredDefinitions? v).getD (.object []) = o.definitionsValue :=
  read_agrees_part definitionsValue (fun _ _ _ => rfl) (fun _ _ => rfl) (fun _ _ => rfl) rfl

/-- The path items and the definitions of a document are those that its text holds as a JSON value. -/
theorem agrees_ofText {text : String} {o : Outline} {v : Value} (ho : ofText text = .ok o)
    (hv : Value.ofText text = .ok v) :
    (declaredPaths? v).getD (.object []) = o.pathsValue ∧
      (declaredDefinitions? v).getD (.object []) = o.definitionsValue := by
  obtain ⟨⟨o', rest⟩, hread, ho⟩ := bind_eq_ok.1 ho
  obtain ⟨⟨v', rest'⟩, hread', hv⟩ := bind_eq_ok.1 hv
  rw [Json.readEnd] at ho hv
  dsimp only at ho hv
  split at ho <;> cases ho
  split at hv <;> cases hv
  exact ⟨(read_agrees_paths hread hread').1, (read_agrees_definitions hread hread').1⟩

end Outline

end LuaStubs.Api
