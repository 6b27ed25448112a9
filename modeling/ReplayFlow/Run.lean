import ReplayFlow.Fault
import ReplayFlow.Notice

/-!
Runs: what was reported on the way, and the value or the fault that stopped it.
What was reported before a fault stays reported.
-/

namespace ReplayFlow

structure Run (α : Type) where
  notices : List Notice
  outcome : Except Fault α

namespace Run

variable {α β : Type}

def pure (value : α) : Run α := ⟨[], .ok value⟩

def fail (fault : Fault) : Run α := ⟨[], .error fault⟩

def bind (run : Run α) (next : α → Run β) : Run β :=
  match run.outcome with
  | .ok value => ⟨run.notices ++ (next value).notices, (next value).outcome⟩
  | .error fault => ⟨run.notices, .error fault⟩

instance : Monad Run where
  pure := Run.pure
  bind := Run.bind

def ofExcept (outcome : Except Fault α) : Run α := ⟨[], outcome⟩

def report (notices : List Notice) : Run Unit := ⟨notices, .ok ()⟩

end Run

end ReplayFlow
