import Audience.Content.Report
import Audience.Reload.Visit
import Audience.Service.Basic

namespace Audience

/-! A service in a time of its own, in milliseconds.

One party in the foreground does a thing after another.  While it waits, the background takes
every step that is possible at once, and when there is none the time goes on to the next instant
at which something is due.  Every change of the service is one of its own steps.
-/

structure Timeline where
  service : Service
  now : Nat
  /-- How long a load takes until it reads. -/
  delay : Nat
  /-- When the load under way reads. -/
  due : Nat
  /-- The time between two looks of the poller. -/
  interval : Nat
  /-- When the poller looks next. -/
  nextLook : Option Nat

namespace Timeline

def ofSource (source : Source) (delay : Nat) : Timeline :=
  { service := .ofSource source, now := 0, delay, due := 0, interval := 0, nextLook := none }

/-- What a step means for the times at which something is due. -/
def reschedule (timeline : Timeline) : Service.Step → Timeline
  | .reload .begin => { timeline with due := timeline.now + timeline.delay }
  | .firstLook =>
      { timeline with
        nextLook :=
          if timeline.interval = 0 then none else some (timeline.now + timeline.interval) }
  | .look => { timeline with nextLook := timeline.nextLook.map (· + timeline.interval) }
  | .watch | .unwatch => { timeline with nextLook := none }
  | _ => timeline

/-- Takes a step, if it is possible. -/
def perform (timeline : Timeline) (step : Service.Step) : Timeline :=
  match timeline.service.step step with
  | some service => { timeline.reschedule step with service }
  | none => timeline

def reloader (timeline : Timeline) : Reloader := timeline.service.reloader

def current (timeline : Timeline) : Option Snapshot := timeline.service.current

/-- The next step of the load under way. -/
def loadStep? (timeline : Timeline) : Option Service.Step :=
  match timeline.reloader.load with
  | none => some (.reload .begin)
  | some .begun => if timeline.due ≤ timeline.now then some (.reload .probe) else none
  | some .probed => some (.reload .read)
  | some (.loaded _) => some (.reload .finish)

/-- The next step of the poller. -/
def pollerStep? (timeline : Timeline) : Option Service.Step :=
  match timeline.service.poller with
  | none => none
  | some ⟨none, _⟩ => some .firstLook
  | some ⟨some _, some _⟩ => some .compare
  | some ⟨some _, none⟩ =>
      if timeline.nextLook.any (· ≤ timeline.now) then some .look else none

/-- The next step of the worker. -/
def workerStep? (timeline : Timeline) : Option Service.Step :=
  let reloader := timeline.reloader
  match reloader.worker with
  | none => none
  | some .looking => some (.reload (if reloader.stopping then .quit else .look))
  | some .waiting => if reloader.stopping then some (.reload .quit) else none
  | some .notified => some (.reload .take)
  | some .reloading => if reloader.turn = some .worker then timeline.loadStep? else none

def backgroundStep? (timeline : Timeline) : Option Service.Step :=
  timeline.pollerStep?.or timeline.workerStep?

/-- Takes steps of the background for as long as they are allowed, up to a number of them.  At one
instant the poller looks once, and the worker ends the load that it has under way and takes up two
notices at most. -/
def runBackground (allowed : Service.Step → Bool) : Nat → Timeline → Timeline
  | 0, timeline => timeline
  | steps + 1, timeline =>
      match timeline.backgroundStep? with
      | some step =>
          if allowed step then runBackground allowed steps (timeline.perform step) else timeline
      | none => timeline

/-- Lets the background go on until it has to wait for a time or for a party. -/
def settle (timeline : Timeline) : Timeline :=
  timeline.runBackground (fun _ => true) 32

/-- Whether a step waits for nothing outside the program. -/
def isPrompt : Service.Step → Bool
  | .reload .probe => false
  | _ => true

/-- Lets the background go on until it has to wait, be it for a source that is read. -/
def advance (timeline : Timeline) : Timeline :=
  timeline.runBackground isPrompt 32

/-- The next instant at which something is due. -/
def nextDue? (timeline : Timeline) : Option Nat :=
  let load := match timeline.reloader.load with
    | some .begun => some timeline.due
    | _ => none
  match load, timeline.nextLook with
  | some first, some second => some (min first second)
  | first, second => first.or second

/-- Lets time go on until a condition holds, for a number of milliseconds at most. -/
def waitUntil (condition : Timeline → Bool) : Nat → Timeline → Timeline
  | 0, timeline => timeline
  | left + 1, timeline =>
      let settled := timeline.settle
      let deadline := timeline.now + left + 1
      if condition settled then settled
      else match settled.nextDue? with
        | some instant =>
            if instant < deadline then
              waitUntil condition (min left (deadline - instant)) { settled with now := instant }
            else { settled with now := deadline }
        | none => { settled with now := deadline }

def sleep (timeline : Timeline) (duration : Nat) : Timeline :=
  waitUntil (fun _ => false) duration timeline

/-- A time in which all loads that are wanted come to their end. -/
def loadingTime (timeline : Timeline) : Nat :=
  (timeline.reloader.line.length + 2) * (timeline.delay + 1)

def start (timeline : Timeline) : Timeline :=
  timeline.perform (.reload .start)

def notify (timeline : Timeline) : Timeline :=
  timeline.perform (.reload .notify)

def put (timeline : Timeline) (version : String) (tree : ContentTree) : Timeline :=
  (timeline.perform (.reload (.put version tree))).perform (.reload .announce)

def replace (timeline : Timeline) (catalog : Catalog) : Timeline :=
  (timeline.perform (.reload (.replace catalog))).perform (.reload .announce)

def setAvailable (timeline : Timeline) (available : Bool) : Timeline :=
  timeline.perform (.reload (.setAvailable available))

def writeFile (timeline : Timeline) (bytes : ByteArray) : Timeline :=
  timeline.perform (.writeFile bytes)

def deleteFile (timeline : Timeline) : Timeline :=
  timeline.perform .deleteFile

/-- Stops the worker and waits until the load that it has under way is finished.  A worker that
has just been woken is given the time to begin. -/
def shutdown (timeline : Timeline) : Timeline :=
  let stopping := (timeline.sleep 1).perform (.reload .stop)
  waitUntil (fun later => later.reloader.worker.isNone) stopping.loadingTime stopping

/-- Lets a load read.  What is in memory takes its time, and a file lets the background go on. -/
def awaitRead (timeline : Timeline) : Timeline :=
  match timeline.service.source with
  | .memory _ _ => timeline.sleep timeline.delay
  | .file _ _ => timeline.advance

/-- Reloads in the foreground, for the generation of the content. -/
def reload (timeline : Timeline) : Timeline × Except LoadError Nat :=
  let party := Party.request 0
  let queued := timeline.perform (.reload (.request 0))
  let hasTurn (later : Timeline) : Bool := later.reloader.turn = some party
  let holding :=
    if hasTurn queued then queued else waitUntil hasTurn queued.loadingTime queued
  let reading := (holding.perform (.reload .begin)).awaitRead
  let loaded := (reading.perform (.reload .probe)).perform (.reload .read)
  let finished := loaded.perform (.reload .finish)
  let outcome := match loaded.reloader.load with
    | some (.loaded (.error cause)) => .error cause
    | _ => .ok finished.reloader.cache.status.generation
  (finished, outcome)

/-- Waits for content for a number of milliseconds.  Content that is found counts more than the
end of the time. -/
def await (timeline : Timeline) (patience : Nat) : Timeline × Option Snapshot :=
  let asked := timeline.perform (.ask 0)
  let visit := Visit.arrived.settle asked.reloader.cache
  let found (later : Timeline) : Option Snapshot := (visit.settle later.reloader.cache).snapshot?
  let isServed (later : Timeline) : Bool := (found later).isSome
  let waited := if isServed asked then asked else waitUntil isServed patience asked
  ((waited.perform (.answer 0)).perform (.giveUp 0), found waited)

/-- Loads from the source and reports on what was found. -/
def check (timeline : Timeline) : Timeline × Except LoadError ContentReport :=
  let reading := (timeline.perform .check).awaitRead
  (reading, reading.service.source.fetch.map Catalog.report)

/-- Sets up a poller and lets it have its first look. -/
def startPolling (timeline : Timeline) (interval : Nat) : Timeline :=
  ({ timeline with interval }.perform .watch).sleep 1

/-- Stops the poller, if there is one, and waits for its end. -/
def stopPolling (timeline : Timeline) : Timeline :=
  if timeline.service.poller.isSome then timeline.advance.perform .unwatch else timeline

end Timeline

end Audience
