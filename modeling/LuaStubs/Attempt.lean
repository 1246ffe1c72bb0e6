import LuaStubs.Error
import LuaStubs.Report

/-!
# Attempts

Where one failure does not end a run, a list of attempts is split into what
succeeded and what failed, each in order. `attempt` tells a failure that leaves
out one entity from one that ends the run.
-/

namespace LuaStubs

/-- What the result for one entity adds to a run: the entity, or the skip that stands for it. An error
that is about more than the entity ends the run. -/
def attempt {α : Type} (kind : EntityKind) (name : String) :
    Except Error α → Except Error (Except Skip α)
  | .ok x => .ok (.ok x)
  | .error e => if e.isEntityError then .ok (.error ⟨kind, name, e.message⟩) else .error e

/-- The results of a list of attempts, without the failures. -/
def successes {ε α : Type} (xs : List (Except ε α)) : List α := xs.filterMap Except.toOption

/-- The failures of a list of attempts. -/
def failures {ε α : Type} (xs : List (Except ε α)) : List ε :=
  xs.filterMap fun
    | .ok _ => none
    | .error e => some e

end LuaStubs
