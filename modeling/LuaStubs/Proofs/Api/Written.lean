import Mathlib.Data.List.Forall2
import LuaStubs.Proofs.Api.Outline
import LuaStubs.Proofs.Attempt

/-!
# Documents as they are written

The paths of a document, each path item and the definitions are objects of its text,
in which keys may be repeated. `Outline.writtenOfText` keeps all of their members, as
they are written. The outline of a document is this one with the members of each
object collected (`Outline.ofText_eq_collected`): every reader between the text and
these objects does the same in both, and the two stay side by side to the end.
-/

namespace LuaStubs.Json

variable {σ : Type} {f : σ → σ}

/-- A reader with a function applied to what it reads. -/
def mapReader (f : σ → σ) (reader : Reader σ) : Reader σ := fun s => Prod.map f id <$> reader s

theorem mapReader_mapReader (g : σ → σ) (reader : Reader σ) :
    mapReader g (mapReader f reader) = mapReader (fun x => g (f x)) reader := by
  funext s
  simp only [mapReader]
  cases reader s <;> rfl

theorem readMembers_map {member member' : σ → String → Except Fault (Reader σ)}
    (h : ∀ acc key, member' (f acc) key = mapReader f <$> member acc key) (fuel : Nat) (first : Bool) (acc : σ) :
    readMembers member' fuel first (f acc) = mapReader f (readMembers member fuel first acc) := by
  induction fuel generalizing first acc with
  | zero => rfl
  | succ fuel ih =>
    funext s
    simp only [readMembers, mapReader]
    split
    · rfl
    · rw [map_bind]
      refine bind_congr fun s₁ => ?_
      split
      · simp only [map_bind, h, bind_map_left, mapReader]
        refine bind_congr fun key => bind_congr fun value => bind_congr fun s₃ => bind_congr fun entry => ?_
        exact congrFun (ih false entry.1) entry.2
      · rfl

theorem readFields_map {fields fields' : List (σ → Reader σ)}
    (h : List.Forall₂ (fun field field' => ∀ acc, field' (f acc) = mapReader f (field acc)) fields fields')
    (first : Bool) (acc : σ) : readFields fields' first (f acc) = mapReader f (readFields fields first acc) := by
  induction h generalizing first acc with
  | nil =>
    funext s
    simp only [readFields, mapReader]
    split <;> rfl
  | cons hfield _ ih =>
    funext s
    simp only [readFields, mapReader]
    split
    · rfl
    · simp only [map_bind, hfield, bind_map_left, mapReader]
      exact bind_congr fun s₁ => bind_congr fun record => congrFun (ih false record.1) record.2

theorem readEnd_map {α : Type} (f : α → α) (x : α × List Char) : readEnd (Prod.map f id x) = f <$> readEnd x := by
  simp only [readEnd, Prod.map_snd, id_eq]
  split <;> rfl

end LuaStubs.Json

namespace LuaStubs.Api

open Json (Fault Reader Value mapReader)

variable {σ α : Type}

/-! ## Objects -/

/-- Reads an object, and takes its entries in with `member`. -/
def readObject (member : σ → String → Except Fault (Reader σ)) (init : σ) : Reader σ := fun s =>
  match Json.skipSpace s with
  | '\x7b' :: rest => Json.readMembers member (s.length + 1) true init rest
  | s => readMismatch .map s

/-- Reads one more entry, whatever its key. -/
def readWrittenEntry (value : Reader α) (acc : Entries α) (key : String) : Except Fault (Reader (Entries α)) :=
  .ok fun s => do
    let (v, s) ← value s
    .ok (acc ++ [(key, v)], s)

/-- Reads an object whose values `value` reads, with all of its entries. -/
def readWritten (value : Reader α) : Reader (Entries α) := readObject (readWrittenEntry value) []

theorem map_readMismatch (g : σ × List Char → σ × List Char) (wanted : Json.Wanted) (s : List Char) :
    g <$> readMismatch wanted s = readMismatch wanted s := by
  cases h : readMismatch (α := σ) wanted s with
  | ok x => exact absurd h readMismatch_ne_ok
  | error e => rfl

theorem readObject_map {f : σ → σ} {member member' : σ → String → Except Fault (Reader σ)}
    (h : ∀ acc key, member' (f acc) key = mapReader f <$> member acc key) (init : σ) :
    readObject member' (f init) = mapReader f (readObject member init) := by
  funext s
  simp only [readObject, mapReader]
  split
  · exact congrFun (Json.readMembers_map h _ true init) _
  · exact (map_readMismatch _ _ _).symm

/-- The entries of an object are those that are written, collected. -/
theorem readEntries_eq_collect (value : Reader α) :
    readEntries value = mapReader Entries.collect (readWritten value) := by
  have hobject : readEntries value = readObject (Json.readEntry value) [] := rfl
  have hentry : ∀ (acc : Entries α) (key : String), Json.readEntry value acc.collect key =
      mapReader Entries.collect <$> readWrittenEntry value acc key := by
    intro acc key
    refine congrArg Except.ok (funext fun s => ?_)
    simp only [mapReader, map_bind]
    refine bind_congr fun read => ?_
    rw [← Entries.collect_append_singleton]
    rfl
  rw [hobject, readWritten]
  exact readObject_map hentry []

/-- Values may be changed as they are read or after all of them have been read. -/
theorem readEntries_mapReader (f : α → α) (value : Reader α) :
    readEntries (mapReader f value) = mapReader (fun es => es.map fun e => (e.1, f e.2)) (readEntries value) := by
  have hentry : ∀ (acc : Entries α) (key : String),
      Json.readEntry (mapReader f value) (acc.map fun e => (e.1, f e.2)) key =
        mapReader (fun es => es.map fun e => (e.1, f e.2)) <$> Json.readEntry value acc key := by
    intro acc key
    refine congrArg Except.ok (funext fun s => ?_)
    simp only [mapReader, map_bind, bind_map_left]
    refine bind_congr fun read => congrArg (fun es => Except.ok (es, read.2)) ?_
    exact Entries.put_map f key read.1 acc
  exact readObject_map hentry []

/-- The entries of objects in an object are those that are written, collected in each object and in all. -/
theorem readEntries_readEntries_eq_collect (value : Reader α) :
    readEntries (readEntries value) =
      mapReader (fun es => es.collect.map fun e => (e.1, e.2.collect)) (readWritten (readWritten value)) := by
  rw [readEntries_eq_collect value, readEntries_mapReader, readEntries_eq_collect, Json.mapReader_mapReader]

/-! ## Records -/

section Record

variable {f : σ → σ} {fields fields' : List (String × (σ → Reader σ))}

/-- The fields of two records have the same keys, and a function leads from what is read in the one to what
is read in the other. -/
def FieldsMap (f : σ → σ) (fields fields' : List (String × (σ → Reader σ))) : Prop :=
  List.Forall₂ (fun field field' => field'.1 = field.1 ∧ ∀ acc, field'.2 (f acc) = mapReader f (field.2 acc))
    fields fields'

theorem FieldsMap.lookup (h : FieldsMap f fields fields') (key : String) :
    fields.lookup key = none ∧ fields'.lookup key = none ∨
      ∃ field field', fields.lookup key = some field ∧ fields'.lookup key = some field' ∧
        ∀ acc, field' (f acc) = mapReader f (field acc) := by
  induction h with
  | nil => exact .inl ⟨rfl, rfl⟩
  | @cons field field' fields fields' hfield _ ih =>
    obtain ⟨other, field⟩ := field
    obtain ⟨_, field'⟩ := field'
    obtain ⟨hkey, hfield⟩ := hfield
    cases hkey
    rw [List.lookup_cons, List.lookup_cons]
    cases key == other with
    | true => exact .inr ⟨field, field', rfl, rfl, hfield⟩
    | false => exact ih

theorem readField_map (h : FieldsMap f fields fields') (g : Given σ) (key : String) :
    readField fields' ⟨f g.record, g.keys⟩ key =
      mapReader (fun g => ⟨f g.record, g.keys⟩) <$> readField fields g key := by
  simp only [readField]
  obtain ⟨hnone, hnone'⟩ | ⟨field, field', hsome, hsome', hfield⟩ := h.lookup key
  · simp only [hnone, hnone']
    refine congrArg Except.ok (funext fun s => ?_)
    simp only [mapReader, map_bind]
    rfl
  · simp only [hsome, hsome']
    split
    · rfl
    · refine congrArg Except.ok (funext fun s => ?_)
      simp only [hfield, mapReader, map_bind, bind_map_left]
      rfl

theorem readRecord_map (h : FieldsMap f fields fields') (name : String) (init : σ) :
    readRecord name fields' (f init) = mapReader f (readRecord name fields init) := by
  funext s
  simp only [readRecord, mapReader]
  split
  · rw [Json.readMembers_map (f := fun g : Given σ => ⟨f g.record, g.keys⟩) (readField_map h) _ true ⟨init, []⟩]
    simp only [mapReader, map_bind, bind_map_left]
    rfl
  · have hfields : List.Forall₂ (fun field field' => ∀ acc, field' (f acc) = mapReader f (field acc))
        (fields.map Prod.snd) (fields'.map Prod.snd) :=
      List.forall₂_map_left_iff.2 (List.forall₂_map_right_iff.2 (h.imp fun _ _ h => h.2))
    exact congrFun (Json.readFields_map hfields true init) _
  · exact (map_readMismatch _ _ _).symm

theorem fieldReader_map {g : α → α} {value value' : Reader α} (hvalue : value' = mapReader g value)
    {set : α → σ → σ} (hset : ∀ v acc, set (g v) (f acc) = f (set v acc)) (acc : σ) :
    fieldReader value' set (f acc) = mapReader f (fieldReader value set acc) := by
  subst hvalue
  funext s
  simp only [fieldReader, mapReader, map_bind, bind_map_left]
  exact bind_congr fun read => congrArg (fun acc => Except.ok (acc, read.2)) (hset read.1 acc)

end Record

/-! ## Documents -/

namespace Outline

/-- Reads the outer levels of a document, its paths with `paths` and its definitions with `definitions`. -/
def readWith (paths : Reader (Entries (Entries Value))) (definitions : Reader (Entries Value)) : Reader Outline :=
  readRecord "RawDocument"
    [("info", fieldReader Info.read fun v d => { d with info := v }),
     ("paths", fieldReader paths fun v d => { d with paths := v }),
     ("definitions", fieldReader definitions fun v d => { d with definitions := v })]
    {}

theorem read_eq_readWith : read = readWith (readEntries (readEntries (readKept 3))) (readEntries (readKept 2)) := rfl

/-- The outline of the document that a text holds, with all members of the objects of its paths, of each path
item and of its definitions. -/
def writtenOfText (text : String) : Except Fault Outline := do
  Json.readEnd (← readWith (readWritten (readWritten (readKept 3))) (readWritten (readKept 2)) text.toList)

/-- The paths with repeated ones collected, and so the members of each path item. -/
def collectedPaths (paths : Entries (Entries Value)) : Entries (Entries Value) :=
  paths.collect.map fun p => (p.1, p.2.collect)

/-- The outline with repeated paths, repeated members of path items and repeated definitions collected. -/
def collected (o : Outline) : Outline :=
  { o with paths := collectedPaths o.paths, definitions := o.definitions.collect }

theorem readWith_collect (paths : Reader (Entries (Entries Value))) (definitions : Reader (Entries Value)) :
    readWith (mapReader collectedPaths paths) (mapReader Entries.collect definitions) =
      mapReader collected (readWith paths definitions) := by
  have hid : Info.read = mapReader id Info.read := funext fun s => (id_map (Info.read s)).symm
  refine readRecord_map (f := collected) ?_ "RawDocument" {}
  refine .cons ⟨rfl, fun acc => ?_⟩ (.cons ⟨rfl, fun acc => ?_⟩ (.cons ⟨rfl, fun acc => ?_⟩ .nil)) <;> dsimp only
  · exact fieldReader_map hid (by intros; rfl) acc
  · exact fieldReader_map rfl (by intros; rfl) acc
  · exact fieldReader_map rfl (by intros; rfl) acc

/-- The paths and the definitions of a document are those that its text declares, a repeated one with its first
position and its last value. -/
theorem ofText_eq_collected (text : String) : ofText text = collected <$> writtenOfText text := by
  have hpaths : readEntries (readEntries (readKept 3)) =
      mapReader collectedPaths (readWritten (readWritten (readKept 3))) := readEntries_readEntries_eq_collect _
  rw [ofText, writtenOfText, read_eq_readWith, hpaths, readEntries_eq_collect, readWith_collect, map_bind, mapReader,
    bind_map_left]
  exact bind_congr fun x => Json.readEnd_map collected x

theorem ofText_eq_ok_iff {text : String} {o : Outline} :
    ofText text = .ok o ↔ ∃ written, writtenOfText text = .ok written ∧ written.collected = o := by
  rw [ofText_eq_collected]
  exact map_eq_ok_iff

theorem nodup_keys_definitions {text : String} {o : Outline} (h : ofText text = .ok o) : o.definitions.keys.Nodup := by
  obtain ⟨written, -, rfl⟩ := ofText_eq_ok_iff.1 h
  exact Entries.nodup_keys_collect _

end Outline

end LuaStubs.Api
