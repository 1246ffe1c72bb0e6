import Mathlib.Data.List.Induction
import Mathlib.Data.List.Nodup
import LuaStubs.Proofs.Manifest

/-!
# The first offence of a manifest

The names of a manifest are checked in one order, messages before events. A name
offends if it is blank or repeats one of its own list (`Offends`). A manifest is
rejected for the first name that does, and for its session definition only if none
does (`validate_eq_error_iff`).
-/

namespace LuaStubs.Manifest

/-- A name in one of the lists of a manifest. -/
structure ListedName where
  /-- The kind of the entities of the list. -/
  kind : EntityKind
  name : String
  deriving DecidableEq, Repr

/-- The names that a manifest lists, in the order of the manifest. -/
def listedNames (m : Manifest) : List ListedName :=
  (m.messages.map MessageEntry.name).map (ListedName.mk .message) ++
    (m.events.map EventEntry.name).map (ListedName.mk .event)

/-- A name is blank, or a name before it in the same list is the same text. -/
def Offends (before : List ListedName) (x : ListedName) : Prop :=
  Text.isBlankText x.name.toList = true ∨ x ∈ before

/-- What is wrong with a name that offends. A blank one is called blank also where it is repeated. -/
def ListedName.problem (x : ListedName) : ConfigProblem :=
  if Text.isBlankText x.name.toList then .blankName x.kind else .repeatedName x.kind x.name

/-- No name offends where it stands. -/
def NoneOffends (names : List ListedName) : Prop :=
  ∀ before x after, names = before ++ x :: after → ¬Offends before x

/-- The name `x` behind `before` offends, and none before it does. -/
structure FirstOffence (names before : List ListedName) (x : ListedName) : Prop where
  exists_append : ∃ after, names = before ++ x :: after
  offends : Offends before x
  noneOffends : NoneOffends before

theorem noneOffends_append_singleton {names : List ListedName} {x : ListedName} :
    NoneOffends (names ++ [x]) ↔ NoneOffends names ∧ ¬Offends names x := by
  constructor
  · refine fun h => ⟨fun before y after heq => ?_, h names x [] rfl⟩
    exact h before y (after ++ [x]) (by rw [heq, List.append_assoc, List.cons_append])
  · rintro ⟨hnames, hx⟩ before y after heq
    rcases List.eq_nil_or_concat' after with rfl | ⟨after, z, rfl⟩
    · obtain ⟨rfl, hxy⟩ := List.append_inj' heq rfl
      cases hxy
      exact hx
    · rw [← List.cons_append, ← List.append_assoc] at heq
      exact hnames before y after (List.append_inj' heq rfl).1

theorem noneOffends_iff {names : List ListedName} :
    NoneOffends names ↔ (∀ x ∈ names, Text.isBlankText x.name.toList = false) ∧ names.Nodup := by
  induction names using List.reverseRecOn with
  | nil => simp [NoneOffends]
  | append_singleton names x ih =>
    rw [noneOffends_append_singleton, ih, Offends]
    rw [List.forall_mem_append, List.forall_mem_singleton, ← List.concat_eq_append, List.nodup_concat, not_or,
      Bool.not_eq_true]
    tauto

/-- There is one first offence. -/
theorem FirstOffence.unique {names before before' : List ListedName} {x x' : ListedName}
    (h : FirstOffence names before x) (h' : FirstOffence names before' x') : x = x' := by
  obtain ⟨⟨after, heq⟩, hx, hbefore⟩ := h
  obtain ⟨⟨after', heq'⟩, hx', hbefore'⟩ := h'
  rcases List.append_eq_append_iff.1 (heq.symm.trans heq') with ⟨between, hb, hs⟩ | ⟨between, hb, hs⟩
  · cases between with
    | nil => exact (List.cons.inj hs).1
    | cons y ys =>
      obtain ⟨rfl, -⟩ := List.cons.inj hs
      exact absurd hx (hbefore' before x ys hb)
  · cases between with
    | nil => exact (List.cons.inj hs).1.symm
    | cons y ys =>
      obtain ⟨rfl, -⟩ := List.cons.inj hs
      exact absurd hx' (hbefore before' x' ys hb)

theorem FirstOffence.not_noneOffends {names before : List ListedName} {x : ListedName}
    (h : FirstOffence names before x) : ¬NoneOffends names := by
  obtain ⟨⟨after, heq⟩, hx, -⟩ := h
  exact fun hnone => hnone before x after heq hx

/-! ## One list -/

theorem noneOffends_map_iff {kind : EntityKind} {names : List String} :
    NoneOffends (names.map (ListedName.mk kind)) ↔ nameProblem? kind [] names = none := by
  rw [noneOffends_iff, nameProblem?_eq_none_iff, List.forall_mem_map,
    List.nodup_map_iff (f := ListedName.mk kind) fun _ _ h => (ListedName.mk.inj h).2]
  simp

/-- A name is bad if it is blank or one of those before it, and these have no problem. -/
theorem exists_of_nameProblem? {kind : EntityKind} {seen names : List String} {problem : ConfigProblem}
    (h : nameProblem? kind seen names = some problem) :
    ∃ before name after, names = before ++ name :: after ∧ nameProblem? kind seen before = none ∧
      (Text.isBlankText name.toList = true ∨ name ∈ seen ∨ name ∈ before) ∧
      problem = if Text.isBlankText name.toList then .blankName kind else .repeatedName kind name := by
  induction names generalizing seen with
  | nil => cases h
  | cons name names ih =>
    rw [nameProblem?] at h
    split at h
    · next hblank =>
      cases h
      exact ⟨[], name, names, rfl, rfl, .inl hblank, (if_pos hblank).symm⟩
    · next hblank =>
      split at h
      · next hseen =>
        cases h
        exact ⟨[], name, names, rfl, rfl, .inr (.inl hseen), (if_neg hblank).symm⟩
      · next hseen =>
        obtain ⟨before, bad, after, rfl, hnone, hbad, hproblem⟩ := ih h
        refine ⟨name :: before, bad, after, rfl,
          nameProblem?_cons.2 ⟨Bool.eq_false_iff.2 hblank, hseen, hnone⟩, hbad.imp_right ?_, hproblem⟩
        -- What has been seen are the names before, the last one first.
        simp only [List.mem_cons]
        tauto

/-- The problem of a list is about its first offence. -/
theorem exists_firstOffence_of_nameProblem? {kind : EntityKind} {names : List String} {problem : ConfigProblem}
    (h : nameProblem? kind [] names = some problem) :
    ∃ before x, FirstOffence (names.map (.mk kind)) before x ∧ problem = x.problem := by
  obtain ⟨before, name, after, rfl, hnone, hbad, hproblem⟩ := exists_of_nameProblem? h
  have hoffends : Offends (before.map (.mk kind)) ⟨kind, name⟩ := hbad.imp_right fun hmem => by simpa using hmem
  exact ⟨before.map (.mk kind), ⟨kind, name⟩,
    ⟨⟨after.map (.mk kind), by simp⟩, hoffends, noneOffends_map_iff.2 hnone⟩, hproblem⟩

/-! ## Both lists -/

theorem FirstOffence.append_right {names before : List ListedName} {x : ListedName} (h : FirstOffence names before x)
    (others : List ListedName) : FirstOffence (names ++ others) before x := by
  obtain ⟨⟨after, rfl⟩, hx, hbefore⟩ := h
  exact ⟨⟨after ++ others, by simp⟩, hx, hbefore⟩

/-- Lists of different kinds have no offence together that one of them does not have alone. -/
theorem noneOffends_append_iff {names others : List ListedName}
    (hkinds : ∀ x ∈ names, ∀ y ∈ others, x.kind ≠ y.kind) :
    NoneOffends (names ++ others) ↔ NoneOffends names ∧ NoneOffends others := by
  have hdisjoint : ∀ x ∈ names, ∀ y ∈ others, x ≠ y := fun x hx y hy heq => hkinds x hx y hy (heq ▸ rfl)
  rw [noneOffends_iff, noneOffends_iff, noneOffends_iff, List.forall_mem_append, List.nodup_append]
  tauto

theorem FirstOffence.append_left {names others before : List ListedName} {x : ListedName} (hnames : NoneOffends names)
    (hkinds : ∀ y ∈ names, ∀ z ∈ others, y.kind ≠ z.kind) (h : FirstOffence others before x) :
    FirstOffence (names ++ others) (names ++ before) x := by
  obtain ⟨⟨after, rfl⟩, hx, hbefore⟩ := h
  refine ⟨⟨after, by rw [List.append_assoc]⟩, hx.imp_right (List.mem_append_right names), ?_⟩
  exact (noneOffends_append_iff fun y hy z hz => hkinds y hy z (List.mem_append_left _ hz)).2 ⟨hnames, hbefore⟩

theorem kind_ne_of_mem (m : Manifest) :
    ∀ x ∈ (m.messages.map MessageEntry.name).map (ListedName.mk .message),
      ∀ y ∈ (m.events.map EventEntry.name).map (ListedName.mk .event), x.kind ≠ y.kind := by
  simp

theorem noneOffends_listedNames_iff {m : Manifest} : NoneOffends m.listedNames ↔
    nameProblem? .message [] (m.messages.map MessageEntry.name) = none ∧
      nameProblem? .event [] (m.events.map EventEntry.name) = none := by
  rw [listedNames, noneOffends_append_iff m.kind_ne_of_mem, noneOffends_map_iff, noneOffends_map_iff]

/-- The problem of a manifest is about its first offence, or about its session definition if none offends. -/
theorem blamed_of_problem? {m : Manifest} {problem : ConfigProblem} (h : m.problem? = some problem) :
    (∃ before x, FirstOffence m.listedNames before x ∧ problem = x.problem) ∨
      NoneOffends m.listedNames ∧ Text.isBlankText m.settings.sessionDefinition.toList = true ∧
        problem = .blankSessionDefinition := by
  rw [problem?] at h
  cases hmessages : nameProblem? .message [] (m.messages.map MessageEntry.name) with
  | some p =>
    rw [hmessages] at h
    cases h
    obtain ⟨before, x, hfirst, rfl⟩ := exists_firstOffence_of_nameProblem? hmessages
    exact .inl ⟨before, x, hfirst.append_right _, rfl⟩
  | none =>
    cases hevents : nameProblem? .event [] (m.events.map EventEntry.name) with
    | some p =>
      rw [hmessages, hevents] at h
      cases h
      obtain ⟨before, x, hfirst, rfl⟩ := exists_firstOffence_of_nameProblem? hevents
      exact .inl ⟨_, x, hfirst.append_left (noneOffends_map_iff.2 hmessages) m.kind_ne_of_mem, rfl⟩
    | none =>
      rw [hmessages, hevents] at h
      refine .inr ⟨noneOffends_listedNames_iff.2 ⟨hmessages, hevents⟩, ?_⟩
      have hsettings : settingsProblem? m.settings = some problem := h
      rw [settingsProblem?] at hsettings
      split at hsettings
      · next hblank => exact ⟨hblank, (Option.some.inj hsettings).symm⟩
      · cases hsettings

/-- A manifest is rejected for the first name that offends, messages before events. The names before it are
neither blank nor repeated in their lists. The session definition is blamed only if no name offends. -/
theorem validate_eq_error_iff {m : Manifest} {e : Error} : m.validate = .error e ↔
    (∃ before x, FirstOffence m.listedNames before x ∧
      (∀ y ∈ before, Text.isBlankText y.name.toList = false) ∧ before.Nodup ∧ e = .config x.problem) ∨
    NoneOffends m.listedNames ∧ Text.isBlankText m.settings.sessionDefinition.toList = true ∧
      e = .config .blankSessionDefinition := by
  constructor
  · intro h
    rw [validate] at h
    split at h
    · next problem hproblem =>
      cases h
      rcases blamed_of_problem? hproblem with ⟨before, x, hfirst, rfl⟩ | ⟨hnone, hblank, rfl⟩
      · obtain ⟨hnonblank, hnodup⟩ := noneOffends_iff.1 hfirst.noneOffends
        exact .inl ⟨before, x, hfirst, hnonblank, hnodup, rfl⟩
      · exact .inr ⟨hnone, hblank, rfl⟩
    · cases h
  · rintro (⟨before, x, hfirst, -, -, rfl⟩ | ⟨hnone, hblank, rfl⟩)
    · cases hproblem : m.problem? with
      | none =>
        obtain ⟨hmessages, hevents, -⟩ := problem?_eq_none_iff.1 hproblem
        exact absurd (noneOffends_listedNames_iff.2 ⟨hmessages, hevents⟩) hfirst.not_noneOffends
      | some problem =>
        rw [validate, hproblem]
        rcases blamed_of_problem? hproblem with ⟨before', x', hfirst', rfl⟩ | ⟨hnone, -⟩
        · rw [hfirst.unique hfirst']
        · exact absurd hnone hfirst.not_noneOffends
    · obtain ⟨hmessages, hevents⟩ := noneOffends_listedNames_iff.1 hnone
      have hproblem : m.problem? = some .blankSessionDefinition := by
        rw [problem?, hmessages, hevents]
        exact if_pos hblank
      rw [validate, hproblem]

/-- A name may be both a message and an event. The second event of that name is the first offence here. -/
example : validate ⟨[⟨"Status", true⟩], [⟨"Status", .realtime⟩, ⟨"Status", .api⟩, ⟨" ", .api⟩], {}⟩ =
    .error (.config (.repeatedName .event "Status")) := by
  rfl

end LuaStubs.Manifest
