import LuaStubs.Files.Store

/-!
# Runs that read

A run that reads files and changes none has a result that depends on the store
alone, and leaves the store as it is (`Reads`). Beside a state that it does not
use it does the same, and leaves that state as it is as well (`Beside`). Both
hold of a run whose steps have them, and `Beside.run_eq` puts the two together.
-/

namespace LuaStubs.Files

variable {α β ε : Type}

/-! ## Runs on a store -/

section Reads

variable {σ : Type}

theorem run_bind (x : ExceptT ε (StateM σ) α) (f : α → ExceptT ε (StateM σ) β) (files : σ) :
    (x >>= f).run.run files =
      match x.run.run files with
      | (.error e, later) => (.error e, later)
      | (.ok a, later) => (f a).run.run later := by
  rw [ExceptT.run_bind, StateT.run_bind]
  obtain ⟨r, later⟩ := x.run.run files
  cases r <;> rfl

/-- A run gives the result that stands for a store, and leaves the store as it is. -/
def Reads (x : ExceptT ε (StateM σ) α) (result : σ → Except ε α) : Prop :=
  ∀ files, x.run.run files = (result files, files)

namespace Reads

/-- A result that does not depend on files. -/
theorem of (r : Except ε α) : Reads (ExceptT.mk (pure r) : ExceptT ε (StateM σ) α) fun _ => r :=
  fun _ => rfl

theorem bind {x : ExceptT ε (StateM σ) α} {f : α → ExceptT ε (StateM σ) β} {rx : σ → Except ε α}
    {rf : α → σ → Except ε β} (hx : Reads x rx) (hf : ∀ a, Reads (f a) (rf a)) :
    Reads (x >>= f) fun files => (rx files).bind fun a => rf a files := by
  intro files
  simp only [run_bind, hx files]
  cases rx files with
  | error e => rfl
  | ok a => exact hf a files

/-- Steps that read, from one state to the next. -/
theorem foldlM {f : β → α → ExceptT ε (StateM σ) β} {rf : β → α → σ → Except ε β}
    (hf : ∀ b a, Reads (f b a) (rf b a)) (xs : List α) (b : β) :
    Reads (xs.foldlM f b) fun files => xs.foldlM (fun b a => rf b a files) b := by
  induction xs generalizing b with
  | nil => exact .of (.ok b)
  | cons x xs ih =>
    simp only [List.foldlM_cons]
    exact .bind (hf b x) ih

variable [Store σ]

theorem readText (path : String) {f : Except Problem String → ExceptT ε (StateM σ) α}
    (rf : Except Problem String → σ → Except ε α) (h : ∀ r, Reads (f r) (rf r)) :
    Reads (ExceptT.lift (Access.readText path) >>= f) fun files => rf (Store.readText files path) files :=
  fun files => h _ files

theorem isFile (path : String) {f : Bool → ExceptT ε (StateM σ) α} (rf : Bool → σ → Except ε α)
    (h : ∀ b, Reads (f b) (rf b)) :
    Reads (ExceptT.lift (Access.isFile path) >>= f) fun files => rf (Store.isFile files path) files :=
  fun files => h _ files

end Reads

end Reads

/-! ## Runs beside a state -/

section Beside

variable {τ : Type} {m : Type → Type} [Monad m] [LawfulMonad m]

/-- A run does what another one does, beside a state that it leaves as it is. -/
def Beside (y : ExceptT ε (StateT τ m) α) (x : ExceptT ε m α) : Prop :=
  ∀ s, y.run.run s = (·, s) <$> x.run

namespace Beside

theorem of (r : Except ε α) : Beside (τ := τ) (ExceptT.mk (pure r)) (ExceptT.mk (pure r) : ExceptT ε m α) := by
  intro s
  simp [ExceptT.run_mk]

theorem bind {y : ExceptT ε (StateT τ m) α} {x : ExceptT ε m α} {g : α → ExceptT ε (StateT τ m) β}
    {f : α → ExceptT ε m β} (h : Beside y x) (hf : ∀ a, Beside (g a) (f a)) : Beside (y >>= g) (x >>= f) := by
  intro s
  simp only [ExceptT.run_bind, StateT.run_bind, h s, bind_map_left, map_bind]
  refine bind_congr fun r => ?_
  cases r with
  | error e => simp
  | ok a => exact hf a s

/-- A run that reads, beside a state. -/
theorem run_eq {σ : Type} {y : ExceptT ε (StateT τ (StateM σ)) α} {x : ExceptT ε (StateM σ) α}
    {result : σ → Except ε α} (h : Beside y x) (hx : Reads x result) (s : τ) (files : σ) :
    (y.run.run s).run files = ((result files, s), files) := by
  rw [h s, StateT.run_map, hx files]
  rfl

end Beside

end Beside

/-! ## Input documents -/

/-- The text of an input document. -/
def Store.document {σ : Type} [Store σ] (files : σ) (path : String) : Except Error String :=
  (Store.readText files path).mapError fun _ => .inputUnreadable path

section

variable {m : Type → Type} [Monad m] [LawfulMonad m] [Access m]

theorem run_readDocument (path : String) : (readDocument path : ExceptT Error m String).run =
    (·.mapError fun _ => .inputUnreadable path) <$> Access.readText path := by
  simp only [readDocument, ExceptT.run_bind]
  change (Except.ok <$> Access.readText path) >>= _ = _
  rw [bind_map_left, map_eq_pure_bind]
  refine bind_congr fun r => ?_
  cases r <;> rfl

theorem Beside.readDocument {τ : Type} (path : String) :
    Beside (τ := τ) (Files.readDocument path) (Files.readDocument path : ExceptT Error m String) := by
  intro s
  rw [run_readDocument, run_readDocument, StateT.run_map]
  change _ <$> (StateT.lift (Access.readText path : m _)).run s = _
  simp [StateT.run_lift]

end

theorem Reads.readDocument {σ : Type} [Store σ] (path : String) :
    Reads (Files.readDocument path) fun files : σ => Store.document files path :=
  .readText path (fun r _ => r.mapError fun _ => Error.inputUnreadable path) fun
    | .ok _ => .of _
    | .error _ => .of _

/-! ## Outputs -/

theorem run_writeOutput {σ : Type} [Store σ] (path text : String) (files : σ) :
    (writeOutput path text : ExceptT Error (StateM σ) Unit).run.run files =
      (if (Store.writeText files path text).2 then .ok () else .error (.outputFailed path),
        (Store.writeText files path text).1) := by
  change StateT.run (ExceptT.run (if (Store.writeText files path text).2 then pure ()
    else throw (Error.outputFailed path))) (Store.writeText files path text).1 = _
  cases (Store.writeText files path text).2 <;> rfl

theorem run_printOutput {σ : Type} [Store σ] (text : String) (files : σ) :
    (printOutput text : ExceptT Error (StateM σ) Unit).run.run files =
      (if (Store.print files text).2 then .ok () else .error (.outputFailed "<stdout>"),
        (Store.print files text).1) := by
  change StateT.run (ExceptT.run (if (Store.print files text).2 then pure ()
    else throw (Error.outputFailed "<stdout>"))) (Store.print files text).1 = _
  cases (Store.print files text).2 <;> rfl

end LuaStubs.Files
