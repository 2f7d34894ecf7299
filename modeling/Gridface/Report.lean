import Gridface.Fault
import Gridface.Notice

/-!
# Reports

The outcome of a step of a build together with the notices given on the way. Notices are kept even
if the step fails.
-/

namespace Gridface

/-- A value or a fault, after some notices. -/
structure Report (α : Type) where
  notices : List Notice
  outcome : Except Fault α
  deriving Repr

namespace Report

/-- The value, without notices. -/
protected def pure {α : Type} (a : α) : Report α := ⟨[], .ok a⟩

/-- The step `f` after `r`, unless `r` has failed. -/
protected def bind {α β : Type} (r : Report α) (f : α → Report β) : Report β :=
  match r.outcome with
  | .ok a => { f a with notices := r.notices ++ (f a).notices }
  | .error e => ⟨r.notices, .error e⟩

instance : Monad Report where
  pure := Report.pure
  bind := Report.bind

/-- A step that gives a notice. -/
def note (n : Notice) : Report Unit := ⟨[n], .ok ()⟩

/-- A step that gives notices. -/
def noteAll (ns : List Notice) : Report Unit := ⟨ns, .ok ()⟩

/-- A step that fails. -/
def fail {α : Type} (e : Fault) : Report α := ⟨[], .error e⟩

/-- A step without notices. -/
def lift {α : Type} (outcome : Except Fault α) : Report α := ⟨[], outcome⟩

instance : MonadLift (Except Fault) Report := ⟨lift⟩

end Report

end Gridface
