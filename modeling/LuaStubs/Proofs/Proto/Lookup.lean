import LuaStubs.Proto.Document

/-!
# Looking names up in a document

A name has a block in a document if its header is found and its closing brace
too. Then a message and an event of that name are found; without a block,
neither is. The fields of a message have names that start as names do
(`hasNameStart_of_mem_fieldsOf`).
-/

namespace LuaStubs.Proto

/-! ## Names of fields -/

/-- The name of a field starts with a letter or an underscore. -/
def Field.HasNameStart (f : Field) : Prop := ∃ c cs, f.name.toList = c :: cs ∧ Text.isNameStart c = true

theorem hasNameStart_of_readUnqualified? {repeated : Bool} {s : List Char} {p : Field × List Char}
    (h : readUnqualified? repeated s = some p) : p.1.HasNameStart := by
  simp only [readUnqualified?, Option.bind_eq_bind, Option.bind_eq_some_iff] at h
  obtain ⟨_, _, _, _, word, hword, h⟩ := h
  obtain ⟨c, cs, hname, hstart⟩ : ∃ c cs, word.1 = c :: cs ∧ Text.isNameStart c = true := by
    rw [readWord?.eq_def] at hword
    split at hword
    · split at hword
      · next hc =>
        cases hword
        exact ⟨_, _, rfl, hc⟩
      · cases hword
    · cases hword
  split at h
  · obtain ⟨_, _, h⟩ := Option.bind_eq_some_iff.1 h
    split at h
    · cases h
      exact ⟨c, cs, by rw [String.toList_ofList, hname], hstart⟩
    · cases h
  · cases h

theorem hasNameStart_of_readField? {s : List Char} {p : Field × List Char} (h : readField? s = some p) :
    p.1.HasNameStart := by
  rw [readField?] at h
  split at h
  · next q hq =>
    cases h
    obtain ⟨_, _, hq⟩ := Option.bind_eq_some_iff.1 hq
    exact hasNameStart_of_readUnqualified? hq
  · exact hasNameStart_of_readUnqualified? h

theorem hasNameStart_of_mem_scanFields {lineStart : Bool} {s : List Char} {f : Field}
    (hf : f ∈ scanFields lineStart s) : f.HasNameStart := by
  fun_induction scanFields lineStart s with
  | case1 => cases hf
  | case2 lineStart c cs field rest h ih =>
    rcases List.mem_cons.1 hf with rfl | hf
    · split at h
      · exact hasNameStart_of_readField? h
      · cases h
    · exact ih hf
  | case3 lineStart c cs h ih => exact ih hf

theorem mem_of_mem_firstOfEachName {f : Field} {fs : List Field} (hf : f ∈ firstOfEachName fs) : f ∈ fs := by
  induction fs with
  | nil => exact hf
  | cons g gs ih =>
    rcases List.mem_cons.1 hf with rfl | hf
    · exact List.mem_cons_self ..
    · exact List.mem_cons_of_mem _ (ih (List.mem_filter.1 hf).1)

namespace Document

/-- The block of a name is there and closed. -/
def hasBlock (d : Document) (name : String) : Bool :=
  match d.afterHeader? name with
  | some rest => Text.hasInfix blockEnd rest
  | none => false

/-- Why a name has no block. -/
def missing (d : Document) (kind : EntityKind) (name : String) : Error :=
  if d.contains name then .malformedEntity kind name "block has no closing brace at line start"
  else .entityNotFound kind name

/-- The fields of the message of a name; none if it has no block. -/
def fieldsOf (d : Document) (name : String) : List Field :=
  match d.block .message name with
  | .ok body => bodyFields body
  | .error _ => []

theorem hasNameStart_of_mem_fieldsOf {d : Document} {name : String} {f : Field} (hf : f ∈ d.fieldsOf name) :
    f.HasNameStart := by
  rw [fieldsOf] at hf
  split at hf
  · exact hasNameStart_of_mem_scanFields (mem_of_mem_firstOfEachName hf)
  · cases hf

/-! ## Blocks -/

variable {d : Document} {name : String}

theorem block_eq_ok (h : d.hasBlock name = true) : ∃ body, ∀ kind, d.block kind name = .ok body := by
  rw [hasBlock] at h
  split at h
  · next rest hrest =>
    obtain ⟨p, hp⟩ := Option.isSome_iff_exists.1 h
    exact ⟨p.1, fun kind => by simp only [block, hrest, hp]⟩
  · cases h

theorem block_eq_error (h : d.hasBlock name = false) (kind : EntityKind) :
    d.block kind name = .error (d.missing kind name) := by
  rw [hasBlock] at h
  split at h
  · next rest hrest =>
    have hsplit : Text.splitAt? blockEnd rest = none := Option.isSome_eq_false_iff.1 h |> Option.isNone_iff_eq_none.1
    simp [block, missing, contains, hrest, hsplit]
  · next hnone => simp [block, missing, contains, hnone]

/-- A missing entity does not end a run. -/
theorem isEntityError_missing (d : Document) (kind : EntityKind) (name : String) :
    (d.missing kind name).isEntityError = true := by
  rw [missing]
  split <;> rfl

theorem message_eq (d : Document) (name : String) : d.message name =
    if d.hasBlock name then .ok (.ofFields name (d.fieldsOf name)) else .error (d.missing .message name) := by
  cases h : d.hasBlock name with
  | true =>
    obtain ⟨body, hbody⟩ := block_eq_ok h
    rw [message, fieldsOf, hbody]
    rfl
  | false =>
    rw [message, block_eq_error h]
    rfl

theorem event_eq (d : Document) (name : String) : d.event name =
    if d.hasBlock name then .ok (.ofName name) else .error (d.missing .event name) := by
  cases h : d.hasBlock name with
  | true =>
    obtain ⟨body, hbody⟩ := block_eq_ok h
    rw [event, hbody]
    rfl
  | false =>
    rw [event, block_eq_error h]
    rfl

end Document

end LuaStubs.Proto
