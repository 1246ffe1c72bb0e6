import LuaStubs.Manifest.Basic

/-!
# Valid manifests

A list of names has no problem if each of them is neither blank nor among those
before it, so names can be left out of a valid manifest (`problem?_sublist`).
-/

namespace LuaStubs.Manifest

theorem nameProblem?_cons {kind : EntityKind} {seen names : List String} {name : String} :
    nameProblem? kind seen (name :: names) = none ↔
      Text.isBlankText name.toList = false ∧ name ∉ seen ∧ nameProblem? kind (name :: seen) names = none := by
  rw [nameProblem?]
  split
  · next h => simp [h]
  · next h =>
    split
    · next hseen => simp [hseen]
    · next hseen => simp [h, hseen]

/-- Names have no problem just if none is blank, none has been seen and no two are the same. -/
theorem nameProblem?_eq_none_iff {kind : EntityKind} {seen names : List String} :
    nameProblem? kind seen names = none ↔
      (∀ name ∈ names, Text.isBlankText name.toList = false ∧ name ∉ seen) ∧ names.Nodup := by
  induction names generalizing seen with
  | nil => simp [nameProblem?]
  | cons name names ih =>
    rw [nameProblem?_cons, ih, List.forall_mem_cons, List.nodup_cons]
    constructor
    · rintro ⟨hblank, hnew, hrest, hnodup⟩
      exact ⟨⟨⟨hblank, hnew⟩, fun x hx => ⟨(hrest x hx).1, fun h => (hrest x hx).2 (List.mem_cons_of_mem _ h)⟩⟩,
        fun hmem => (hrest name hmem).2 (List.mem_cons_self ..), hnodup⟩
    · rintro ⟨⟨⟨hblank, hnew⟩, hrest⟩, hmem, hnodup⟩
      refine ⟨hblank, hnew, fun x hx => ⟨(hrest x hx).1, fun h => ?_⟩, hnodup⟩
      rcases List.mem_cons.1 h with rfl | h
      · exact hmem hx
      · exact (hrest x hx).2 h

/-- Fewer names, after fewer names, have no problem either. -/
theorem nameProblem?_sublist {kind : EntityKind} {seen seen' names names' : List String}
    (hnames : names'.Sublist names) (hseen : ∀ x ∈ seen', x ∈ seen) (h : nameProblem? kind seen names = none) :
    nameProblem? kind seen' names' = none := by
  obtain ⟨hall, hnodup⟩ := nameProblem?_eq_none_iff.1 h
  refine nameProblem?_eq_none_iff.2 ⟨fun x hx => ?_, hnodup.sublist hnames⟩
  obtain ⟨hblank, hnew⟩ := hall x (hnames.subset hx)
  exact ⟨hblank, fun hx' => hnew (hseen x hx')⟩

theorem problem?_eq_none_iff {m : Manifest} : m.problem? = none ↔
    nameProblem? .message [] (m.messages.map MessageEntry.name) = none ∧
    nameProblem? .event [] (m.events.map EventEntry.name) = none ∧ settingsProblem? m.settings = none := by
  simp [problem?]

/-- A part of a valid manifest is valid. -/
theorem problem?_sublist {m : Manifest} {messages : List MessageEntry} {events : List EventEntry}
    (hmessages : messages.Sublist m.messages) (hevents : events.Sublist m.events) (h : m.problem? = none) :
    problem? ⟨messages, events, m.settings⟩ = none := by
  obtain ⟨hm, he, hs⟩ := problem?_eq_none_iff.1 h
  exact problem?_eq_none_iff.2
    ⟨nameProblem?_sublist (hmessages.map _) (fun _ hx => hx) hm,
      nameProblem?_sublist (hevents.map _) (fun _ hx => hx) he, hs⟩

end LuaStubs.Manifest
