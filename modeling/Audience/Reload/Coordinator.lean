import Audience.Reload.Reloader

namespace Audience

/-! The calls that set up the worker of a reloader and shut it down.

A call takes more than one step, and others may take theirs in between: a worker that has just been
set up may look for a notice before the call has sent the first one, and a call that shuts it down
lasts until it is gone.  Calls do not overlap one another.
-/

/-- Registers with the source and sets up the worker, without a notice. -/
def Reloader.spawn (reloader : Reloader) : Reloader :=
  { reloader with listening := true, worker := some .looking }

/-- A call that has begun and not returned. -/
inductive Coordinator.Call where
  | starting
  | stopping
deriving Repr, DecidableEq

structure Coordinator where
  reloader : Reloader
  call : Option Coordinator.Call

namespace Coordinator

def ofSource (source : Source) : Coordinator := ⟨.ofSource source, none⟩

inductive Step where
  /-- Sets up the worker; while there is one the call returns at once. -/
  | start
  /-- A call that has set up the worker sends it a first notice and returns. -/
  | greet
  /-- Tells the worker to stop, and begins to wait for its end. -/
  | shutDown
  /-- A call that waited for the end of the worker returns. -/
  | leave
  /-- A step that is no part of a call. -/
  | go (step : Reloader.Step)

/-- Whether a step of a reloader is a call in one step. -/
def isCall : Reloader.Step → Bool
  | .start | .stop => true
  | _ => false

/-- The coordinator after a step; nothing when the step is not possible. -/
def step (coordinator : Coordinator) : Step → Option Coordinator
  | .start =>
      if coordinator.call = none then
        match coordinator.reloader.worker with
        | some _ => some coordinator
        | none => some ⟨coordinator.reloader.spawn, some .starting⟩
      else none
  | .greet =>
      if coordinator.call = some .starting then some ⟨coordinator.reloader.notify, none⟩ else none
  | .shutDown =>
      if coordinator.call = none then
        (coordinator.reloader.step .stop).map fun reloader => ⟨reloader, some .stopping⟩
      else none
  | .leave =>
      if coordinator.call = some .stopping ∧ coordinator.reloader.worker = none then
        some { coordinator with call := none }
      else none
  | .go step =>
      if isCall step then none
      else (coordinator.reloader.step step).map fun reloader => { coordinator with reloader }

end Coordinator

end Audience
