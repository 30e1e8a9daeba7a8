import Audience.Content.Source
import Audience.Reload.Cache

namespace Audience

/-! Reloads of content: a background worker that answers notices of change, and requests in the
foreground, which take turns.

A reloader changes by single steps of the parties around it; between any two steps of one party
the others may take theirs.  `Reloader.step` says which steps are possible and what they do.
-/

/-- Who reloads. -/
inductive Party where
  | worker
  /-- A request in the foreground. -/
  | request (ticket : Nat)
deriving Repr, DecidableEq

inductive WorkerState where
  /-- About to look for a notice. -/
  | looking
  | waiting
  /-- Woken by a notice that it has not taken up yet. -/
  | notified
  /-- Has a load under way, or stands in line for one. -/
  | reloading
deriving Repr, DecidableEq

/-- How far a load has come. -/
inductive LoadPhase where
  | begun
  /-- The source was found to be available. -/
  | probed
  | loaded (outcome : Except LoadError Catalog)

structure Reloader where
  source : Source
  /-- Whether writes are announced to the reloader. -/
  listening : Bool
  /-- Writes that have been stored and not yet announced. -/
  unannounced : Nat
  /-- A notice that nobody waited for.  There is never more than one. -/
  permit : Bool
  worker : Option WorkerState
  /-- Whether the worker has been told to stop. -/
  stopping : Bool
  /-- Who wants to load, in order of arrival.  The first has its turn. -/
  line : List Party
  /-- The load of the first in the line, once begun. -/
  load : Option LoadPhase
  cache : Cache
  /-- The number of loads begun. -/
  loads : Nat
  completed : Nat
  failed : Nat

namespace Reloader

def ofSource (source : Source) : Reloader :=
  { source, listening := false, unannounced := 0, permit := false, worker := none,
    stopping := false, line := [], load := none, cache := .empty, loads := 0, completed := 0,
    failed := 0 }

/-- Wakes the waiting worker, or keeps the notice until the worker looks for one. -/
def notify (reloader : Reloader) : Reloader :=
  match reloader.worker with
  | some .waiting => { reloader with worker := some .notified }
  | _ => { reloader with permit := true }

/-- Tells of a change of the source. -/
def announce (reloader : Reloader) : Reloader :=
  if reloader.listening then reloader.notify else reloader

/-- The worker takes up a notice and gets in line. -/
def queueWorker (reloader : Reloader) : Reloader :=
  { reloader with worker := some .reloading, line := reloader.line ++ [.worker] }

/-- What the end of a load means for the cache and the counts. -/
def conclude (reloader : Reloader) : Except LoadError Catalog → Reloader
  | .ok catalog =>
      { reloader with
        cache := reloader.cache.publish catalog, completed := reloader.completed + 1 }
  | .error cause =>
      { reloader with
        cache := reloader.cache.recordFailure cause.message, failed := reloader.failed + 1 }

/-- A party whose load has ended leaves the line; the worker looks for the next notice. -/
def dismiss (reloader : Reloader) (party : Party) : Reloader :=
  { reloader with
    line := reloader.line.tail
    load := none
    worker := if party = .worker then some .looking else reloader.worker }

/-- What a party can do. -/
inductive Step where
  /-- Registers with the source, sets up the worker and sends it a first notice. -/
  | start
  /-- Tells the worker to stop. -/
  | stop
  | notify
  /-- Stores one data version in memory; `announce` follows. -/
  | put (version : String) (tree : ContentTree)
  /-- Stores all data versions in memory; `announce` follows. -/
  | replace (catalog : Catalog)
  | announce
  | setAvailable (available : Bool)
  | setDisk (disk : Disk)
  /-- A request in the foreground gets in line. -/
  | request (ticket : Nat)
  /-- The worker looks for a notice that was kept, and waits if there is none. -/
  | look
  /-- The worker takes up the notice that woke it. -/
  | take
  | quit
  /-- Whoever has the turn tells the cache that a load begins, and the load is counted: one step, for
  nothing waits between the two, and everybody else who loads is in line behind this party. -/
  | begin
  | probe
  | read
  /-- The outcome of the load goes to the cache and to the counts, and the next in line has the turn:
  one step as well, for nothing waits in it.  Only an onlooker could find the cache ahead of the
  counts, and no onlooker is a party here. -/
  | finish

/-- The reloader after a step; nothing when the step is not possible. -/
def step (reloader : Reloader) : Step → Option Reloader
  | .start =>
      if reloader.stopping then none
      else match reloader.worker with
        | some _ => some reloader
        | none => some { reloader with listening := true, worker := some .looking }.notify
  | .stop =>
      if reloader.stopping then none
      else some { reloader with stopping := reloader.worker.isSome }
  | .notify => some reloader.notify
  | .put version tree =>
      (reloader.source.put version tree).map fun source =>
        { reloader with source, unannounced := reloader.unannounced + 1 }
  | .replace catalog =>
      (reloader.source.replace catalog).map fun source =>
        { reloader with source, unannounced := reloader.unannounced + 1 }
  | .announce =>
      match reloader.unannounced with
      | 0 => none
      | others + 1 => some { reloader with unannounced := others }.announce
  | .setAvailable available =>
      (reloader.source.setAvailable available).map fun source => { reloader with source }
  | .setDisk disk => (reloader.source.setDisk disk).map fun source => { reloader with source }
  | .request ticket => some { reloader with line := reloader.line ++ [.request ticket] }
  | .look =>
      match reloader.worker with
      | some .looking =>
          if reloader.permit then some { reloader with permit := false }.queueWorker
          else some { reloader with worker := some .waiting }
      | _ => none
  | .take =>
      match reloader.worker with
      | some .notified => some reloader.queueWorker
      | _ => none
  | .quit =>
      if reloader.stopping then
        match reloader.worker with
        | some .looking | some .waiting =>
            some { reloader with worker := none, stopping := false }
        | some .notified =>
            some { reloader with worker := none, stopping := false, permit := true }
        | some .reloading | none => none
      else none
  | .begin =>
      match reloader.line, reloader.load with
      | _ :: _, none =>
          some { reloader with
            load := some .begun, loads := reloader.loads + 1, cache := reloader.cache.beginLoad }
      | _, _ => none
  | .probe =>
      match reloader.load with
      | some .begun =>
          if reloader.source.isAvailable then some { reloader with load := some .probed }
          else some { reloader with load := some (.loaded (.error .unavailable)) }
      | _ => none
  | .read =>
      match reloader.load with
      | some .probed =>
          some { reloader with load := some (.loaded reloader.source.content) }
      | _ => none
  | .finish =>
      match reloader.line, reloader.load with
      | party :: _, some (.loaded outcome) => some ((reloader.conclude outcome).dismiss party)
      | _, _ => none

/-- Whoever is first in the line. -/
def turn (reloader : Reloader) : Option Party := reloader.line.head?

end Reloader

end Audience
