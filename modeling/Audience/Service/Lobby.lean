import Audience.Reload.Visit
import Audience.Service.Basic
import Audience.Service.Query

namespace Audience

/-! A service together with everybody who asks it for content.

Each of them goes on by themselves, and whatever the service does may come between any two of their
steps.
-/

/-- A step in which somebody asks, is answered or goes away. -/
def Service.Step.isVisit : Service.Step → Bool
  | ask _ | answer _ | giveUp _ => true
  | _ => false

/-- A service and those who come to ask it for content, by their tickets. -/
structure Lobby where
  service : Service
  /-- What everybody asks who may come. -/
  questions : Nat → Question
  visits : Nat → Option Visit

namespace Lobby

def ofSource (source : Source) (questions : Nat → Question) : Lobby :=
  ⟨.ofSource source, questions, fun _ => none⟩

def cache (lobby : Lobby) : Cache := lobby.service.reloader.cache

def current (lobby : Lobby) : Option Snapshot := lobby.cache.current

/-- Somebody has come so far, and the service is as given. -/
def note (lobby : Lobby) (ticket : Nat) (visit : Visit) (service : Service) : Lobby :=
  { lobby with
    service, visits := fun other => if other = ticket then some visit else lobby.visits other }

inductive Step where
  /-- The service goes on. -/
  | serve (step : Service.Step)
  /-- Somebody comes to ask for content. -/
  | enter (ticket : Nat)
  /-- Somebody does the next thing that they do on their own. -/
  | goOn (ticket : Nat)
  /-- The time of somebody who has to wait is over. -/
  | leave (ticket : Nat)

/-- Whether somebody would go away if their time were over. -/
def mayLeave (lobby : Lobby) (ticket : Nat) (visit : Visit) : Bool :=
  (lobby.questions ticket).isTimed && visit.isOpen && (visit.next? lobby.cache).isNone

/-- The lobby after a step; nothing when the step is not possible. -/
def step (lobby : Lobby) : Step → Option Lobby
  | .serve inner =>
      if inner.isVisit then none
      else (lobby.service.step inner).map fun service => { lobby with service }
  | .enter ticket =>
      match lobby.visits ticket with
      | some _ => none
      | none => (lobby.service.step (.ask ticket)).map (lobby.note ticket .arrived)
  | .goOn ticket =>
      match (lobby.visits ticket).bind (Visit.next? lobby.cache) with
      | some (.served snapshot) =>
          (lobby.service.step (.answer ticket)).map (lobby.note ticket (.served snapshot))
      | some later => some (lobby.note ticket later lobby.service)
      | none => none
  | .leave ticket =>
      match lobby.visits ticket with
      | some visit =>
          if lobby.mayLeave ticket visit then
            (lobby.service.step (.giveUp ticket)).map (lobby.note ticket .gone)
          else none
      | none => none

/-- What somebody was told. -/
def answer? (lobby : Lobby) (ticket : Nat) : Option (Except QueryError Answer) :=
  match lobby.visits ticket with
  | some (.served snapshot) => some ((lobby.questions ticket).answer snapshot)
  | some .gone => some (.error .notReady)
  | _ => none

/-- What somebody is told who does not wait. -/
def present (lobby : Lobby) (ticket : Nat) : Except QueryError Answer :=
  match lobby.current with
  | some snapshot => (lobby.questions ticket).answer snapshot
  | none => .error .notReady

end Lobby

end Audience
