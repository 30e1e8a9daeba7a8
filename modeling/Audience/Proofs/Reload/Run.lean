import Audience.Proofs.Trace
import Audience.Reload.Reloader

namespace Audience

/-! Runs of a reloader.

`Transition` says for every step what it needs and what it changes; all that is proved about runs
goes through it.
-/

namespace Reloader

/-- A notice wakes the worker that waits for it or is kept. -/
inductive Noticed (before : Reloader) : Reloader → Prop where
  | woke (waiting : before.worker = some .waiting) :
      Noticed before { before with worker := some .notified }
  | kept (busy : before.worker ≠ some .waiting) : Noticed before { before with permit := true }

inductive Transition (before : Reloader) : Step → Reloader → Prop where
  | alreadyStarted (going : before.stopping = false) (running : before.worker ≠ none) :
      Transition before .start before
  | started (going : before.stopping = false) (idle : before.worker = none) :
      Transition before .start
        { before with listening := true, worker := some .looking, permit := true }
  | stopped (going : before.stopping = false) :
      Transition before .stop { before with stopping := before.worker.isSome }
  | notified {after : Reloader} (noticed : Noticed before after) : Transition before .notify after
  | put {version : String} {tree : ContentTree} {source : Source}
      (stored : before.source.put version tree = some source) :
      Transition before (.put version tree)
        { before with source, unannounced := before.unannounced + 1 }
  | replaced {catalog : Catalog} {source : Source}
      (stored : before.source.replace catalog = some source) :
      Transition before (.replace catalog)
        { before with source, unannounced := before.unannounced + 1 }
  | announced {others : Nat} {after : Reloader} (stored : before.unannounced = others + 1)
      (listening : before.listening = true)
      (noticed : Noticed { before with unannounced := others } after) :
      Transition before .announce after
  | unheard {others : Nat} (stored : before.unannounced = others + 1)
      (deaf : before.listening = false) :
      Transition before .announce { before with unannounced := others }
  | switched {available : Bool} {source : Source}
      (switched : before.source.setAvailable available = some source) :
      Transition before (.setAvailable available) { before with source }
  | diskChanged {disk : Disk} {source : Source}
      (changed : before.source.setDisk disk = some source) :
      Transition before (.setDisk disk) { before with source }
  | requested {ticket : Nat} :
      Transition before (.request ticket) { before with line := before.line ++ [.request ticket] }
  | foundKept (looking : before.worker = some .looking) (kept : before.permit = true) :
      Transition before .look
        { before with
          permit := false, worker := some .reloading, line := before.line ++ [.worker] }
  | foundNothing (looking : before.worker = some .looking) (nothing : before.permit = false) :
      Transition before .look { before with worker := some .waiting }
  | took (notified : before.worker = some .notified) :
      Transition before .take
        { before with worker := some .reloading, line := before.line ++ [.worker] }
  | quit (stopping : before.stopping = true)
      (idle : before.worker = some .looking ∨ before.worker = some .waiting) :
      Transition before .quit { before with worker := none, stopping := false }
  | quitNotified (stopping : before.stopping = true) (notified : before.worker = some .notified) :
      Transition before .quit { before with worker := none, stopping := false, permit := true }
  | begun {party : Party} {rest : List Party} (line : before.line = party :: rest)
      (free : before.load = none) :
      Transition before .begin
        { before with
          load := some .begun, loads := before.loads + 1, cache := before.cache.beginLoad }
  | probed (begun : before.load = some .begun) (available : before.source.isAvailable = true) :
      Transition before .probe { before with load := some .probed }
  | unavailable (begun : before.load = some .begun)
      (unavailable : before.source.isAvailable = false) :
      Transition before .probe { before with load := some (.loaded (.error .unavailable)) }
  | read (probed : before.load = some .probed) :
      Transition before .read { before with load := some (.loaded before.source.content) }
  | published {party : Party} {rest : List Party} {catalog : Catalog}
      (line : before.line = party :: rest) (loaded : before.load = some (.loaded (.ok catalog))) :
      Transition before .finish
        { before with
          line := rest, load := none
          worker := if party = .worker then some .looking else before.worker
          cache := before.cache.publish catalog, completed := before.completed + 1 }
  | failed {party : Party} {rest : List Party} {cause : LoadError}
      (line : before.line = party :: rest) (loaded : before.load = some (.loaded (.error cause))) :
      Transition before .finish
        { before with
          line := rest, load := none
          worker := if party = .worker then some .looking else before.worker
          cache := before.cache.recordFailure cause.message, failed := before.failed + 1 }

variable {before after : Reloader} {step : Step}

theorem noticed_notify (reloader : Reloader) : Noticed reloader reloader.notify := by
  rw [notify]
  split
  next waiting => exact .woke waiting
  next busy => exact .kept busy

theorem Noticed.source (noticed : Noticed before after) : after.source = before.source := by
  cases noticed <;> rfl

theorem Noticed.cache (noticed : Noticed before after) : after.cache = before.cache := by
  cases noticed <;> rfl

theorem Noticed.load (noticed : Noticed before after) : after.load = before.load := by
  cases noticed <;> rfl

theorem transition_of_step (taken : before.step step = some after) :
    Transition before step after := by
  cases step with
  | start =>
      simp only [Reloader.step] at taken
      split at taken
      · cases taken
      · next going =>
          have going := Bool.eq_false_iff.mpr going
          split at taken
          · next running =>
              cases taken
              exact .alreadyStarted going (by simp [running])
          · next idle =>
              cases taken
              exact .started going idle
  | stop =>
      simp only [Reloader.step] at taken
      split at taken
      · cases taken
      · next going =>
          cases taken
          exact .stopped (Bool.eq_false_iff.mpr going)
  | notify =>
      cases taken
      exact .notified (noticed_notify before)
  | put version tree =>
      obtain ⟨source, stored, rfl⟩ := Option.map_eq_some_iff.mp taken
      exact .put stored
  | replace catalog =>
      obtain ⟨source, stored, rfl⟩ := Option.map_eq_some_iff.mp taken
      exact .replaced stored
  | announce =>
      simp only [Reloader.step] at taken
      split at taken
      · cases taken
      · next others stored =>
          cases taken
          rw [announce]
          split
          · next listening => exact .announced stored listening (noticed_notify _)
          · next deaf => exact .unheard stored (Bool.eq_false_iff.mpr deaf)
  | setAvailable available =>
      obtain ⟨source, switched, rfl⟩ := Option.map_eq_some_iff.mp taken
      exact .switched switched
  | setDisk disk =>
      obtain ⟨source, changed, rfl⟩ := Option.map_eq_some_iff.mp taken
      exact .diskChanged changed
  | request ticket =>
      cases taken
      exact .requested
  | look =>
      simp only [Reloader.step] at taken
      split at taken
      · next looking =>
          split at taken
          · next kept =>
              cases taken
              exact .foundKept looking kept
          · next nothing =>
              cases taken
              exact .foundNothing looking (Bool.eq_false_iff.mpr nothing)
      · cases taken
  | take =>
      simp only [Reloader.step] at taken
      split at taken
      · next notified =>
          cases taken
          exact .took notified
      · cases taken
  | quit =>
      simp only [Reloader.step] at taken
      split at taken
      · next stopping =>
          split at taken
          · next looking =>
              cases taken
              exact .quit stopping (.inl looking)
          · next waiting =>
              cases taken
              exact .quit stopping (.inr waiting)
          · next notified =>
              cases taken
              exact .quitNotified stopping notified
          · cases taken
          · cases taken
      · cases taken
  | begin =>
      simp only [Reloader.step] at taken
      split at taken
      · next line free =>
          cases taken
          exact .begun line free
      · cases taken
  | probe =>
      simp only [Reloader.step] at taken
      split at taken
      · next begun =>
          split at taken
          · next available =>
              cases taken
              exact .probed begun available
          · next unavailable =>
              cases taken
              exact .unavailable begun (Bool.eq_false_iff.mpr unavailable)
      · cases taken
  | read =>
      simp only [Reloader.step] at taken
      split at taken
      · next probed =>
          cases taken
          exact .read probed
      · cases taken
  | finish =>
      simp only [Reloader.step] at taken
      split at taken
      · next party rest outcome line loaded =>
          cases taken
          cases outcome with
          | ok catalog => simpa [conclude, dismiss, line] using Transition.published line loaded
          | error cause => simpa [conclude, dismiss, line] using Transition.failed line loaded
      · cases taken

abbrev Run : Reloader → List (Reloader × Step) → Reloader → Prop := Trace Reloader.step

/-- What a load comes to that a step ends. -/
def ending? (reloader : Reloader) : Step → Option (Except LoadError Catalog)
  | .finish =>
      match reloader.load with
      | some (.loaded outcome) => some outcome
      | _ => none
  | _ => none

theorem ending?_of_ne_finish (reloader : Reloader) (other : step ≠ .finish) :
    reloader.ending? step = none := by
  cases step with
  | finish => exact absurd rfl other
  | _ => rfl

theorem current_of_unfinished (taken : before.step step = some after) (other : step ≠ .finish) :
    after.cache.current = before.cache.current := by
  cases transition_of_step taken with
  | notified noticed => rw [noticed.cache]
  | announced stored listening noticed => rw [noticed.cache]
  | published line loaded => exact absurd rfl other
  | failed line loaded => exact absurd rfl other
  | _ => rfl

/-- What the last load found is published, if it found something. -/
theorem Run.current {initial final : Reloader} {history : List (Reloader × Step)}
    {catalog : Catalog} (run : Run initial history final)
    (last : (seen ending? history).getLast? = some (.ok catalog)) :
    ∃ snapshot, final.cache.current = some snapshot ∧ snapshot.catalog = catalog := by
  induction run with
  | nil => simp [seen] at last
  | @snoc history before after step earlier taken ih =>
      rw [seen_snoc] at last
      by_cases finish : step = .finish
      · subst finish
        cases transition_of_step taken with
        | published line loaded =>
            simp only [ending?, loaded, Option.toList_some, List.getLast?_concat] at last
            cases last
            exact ⟨_, rfl, rfl⟩
        | failed line loaded => simp [ending?, loaded] at last
      · rw [ending?_of_ne_finish before finish, Option.toList_none, List.append_nil] at last
        rw [current_of_unfinished taken finish]
        exact ih last

/-- The line and the load under way agree with what the worker does. -/
structure Orderly (reloader : Reloader) : Prop where
  workerInLine : Party.worker ∈ reloader.line ↔ reloader.worker = some .reloading
  workerOnce : reloader.line.count .worker ≤ 1
  loadHasTurn : reloader.line = [] → reloader.load = none
  workerListens : reloader.worker ≠ none → reloader.listening = true

theorem orderly_ofSource (source : Source) : (ofSource source).Orderly where
  workerInLine := by simp [ofSource]
  workerOnce := by simp [ofSource]
  loadHasTurn := fun _ => rfl
  workerListens := by simp [ofSource]

/-- Nobody gets in line or leaves it, and the worker goes on as before. -/
theorem Orderly.of_same (orderly : before.Orderly) (line : after.line = before.line)
    (worker : after.worker = before.worker) (listening : after.listening = before.listening)
    (load : after.line = [] → after.load = none) : after.Orderly where
  workerInLine := by rw [line, worker, orderly.workerInLine]
  workerOnce := by rw [line]; exact orderly.workerOnce
  loadHasTurn := load
  workerListens := by rw [worker, listening]; exact orderly.workerListens

/-- A worker that is not in line does something else, away from the line. -/
theorem Orderly.of_idle (orderly : before.Orderly) (line : after.line = before.line)
    (load : after.load = before.load) (idle : before.worker ≠ some .reloading)
    (stillIdle : after.worker ≠ some .reloading)
    (listens : after.worker ≠ none → after.listening = true) : after.Orderly where
  workerInLine := by simp [line, orderly.workerInLine, idle, stillIdle]
  workerOnce := by rw [line]; exact orderly.workerOnce
  loadHasTurn := by rw [line, load]; exact orderly.loadHasTurn
  workerListens := listens

theorem Orderly.of_noticed (orderly : before.Orderly) (noticed : Noticed before after) :
    after.Orderly := by
  cases noticed with
  | woke waiting =>
      have listening := orderly.workerListens (by simp [waiting])
      exact orderly.of_idle rfl rfl (by simp [waiting]) (by simp) fun _ => listening
  | kept busy => exact orderly.of_same rfl rfl rfl orderly.loadHasTurn

/-- The worker gets in line, in which it is not yet. -/
theorem Orderly.of_queued (orderly : before.Orderly) (line : after.line = before.line ++ [.worker])
    (worker : after.worker = some .reloading)
    (idle : before.worker ≠ some .reloading) (listening : after.listening = true) :
    after.Orderly := by
  have absent : Party.worker ∉ before.line := by
    rw [orderly.workerInLine]
    exact idle
  refine
    { workerInLine := by simp [line, worker]
      workerOnce := ?_
      loadHasTurn := by simp [line]
      workerListens := fun _ => listening }
  rw [line, List.count_append, List.count_eq_zero_of_not_mem absent]
  simp

/-- The first in line leaves it. -/
theorem Orderly.of_dismissed {party : Party} (orderly : before.Orderly)
    (line : before.line = party :: after.line) (load : after.load = none)
    (worker : after.worker = if party = .worker then some .looking else before.worker)
    (listening : after.listening = before.listening) : after.Orderly := by
  have inLine := orderly.workerInLine
  have once := orderly.workerOnce
  have listens := orderly.workerListens
  rw [line] at inLine once
  cases party with
  | worker =>
      have reloading : before.worker = some .reloading := inLine.mp List.mem_cons_self
      have absent : Party.worker ∉ after.line := by
        rw [List.count_cons_self] at once
        exact List.count_eq_zero.mp (by omega)
      exact
        { workerInLine := by simp [absent, worker]
          workerOnce := by simp [List.count_eq_zero_of_not_mem absent]
          loadHasTurn := fun _ => load
          workerListens := fun _ => by rw [listening]; exact listens (by simp [reloading]) }
  | request ticket =>
      exact
        { workerInLine := by simpa [worker] using inLine
          workerOnce := by simpa using once
          loadHasTurn := fun _ => load
          workerListens := by simpa [worker, listening] using listens }

theorem Orderly.of_step (orderly : before.Orderly) (taken : before.step step = some after) :
    after.Orderly := by
  cases transition_of_step taken with
  | alreadyStarted going running => exact orderly
  | started going idle => exact orderly.of_idle rfl rfl (by simp [idle]) (by simp) fun _ => rfl
  | stopped going => exact orderly.of_same rfl rfl rfl orderly.loadHasTurn
  | notified noticed => exact orderly.of_noticed noticed
  | put stored => exact orderly.of_same rfl rfl rfl orderly.loadHasTurn
  | replaced stored => exact orderly.of_same rfl rfl rfl orderly.loadHasTurn
  | @announced others after stored listening noticed =>
      have announcing : Orderly { before with unannounced := others } :=
        orderly.of_same rfl rfl rfl orderly.loadHasTurn
      exact announcing.of_noticed noticed
  | unheard stored deaf => exact orderly.of_same rfl rfl rfl orderly.loadHasTurn
  | switched switched => exact orderly.of_same rfl rfl rfl orderly.loadHasTurn
  | diskChanged changed => exact orderly.of_same rfl rfl rfl orderly.loadHasTurn
  | requested =>
      exact
        { workerInLine := by simp [orderly.workerInLine]
          workerOnce := by simpa [List.count_append] using orderly.workerOnce
          loadHasTurn := by simp
          workerListens := orderly.workerListens }
  | foundKept looking kept =>
      exact orderly.of_queued rfl rfl (by simp [looking])
        (orderly.workerListens (by simp [looking]))
  | foundNothing looking nothing =>
      have listening := orderly.workerListens (by simp [looking])
      exact orderly.of_idle rfl rfl (by simp [looking]) (by simp) fun _ => listening
  | took notified =>
      exact orderly.of_queued rfl rfl (by simp [notified])
        (orderly.workerListens (by simp [notified]))
  | quit stopping idle =>
      have idle : before.worker ≠ some .reloading := by
        rcases idle with looking | waiting <;> simp [*]
      exact orderly.of_idle rfl rfl idle (by simp) (by simp)
  | quitNotified stopping notified =>
      exact orderly.of_idle rfl rfl (by simp [notified]) (by simp) (by simp)
  | begun line free => exact orderly.of_same rfl rfl rfl (by simp [line])
  | probed begun available =>
      exact orderly.of_same rfl rfl rfl fun empty => by simp [orderly.loadHasTurn empty] at begun
  | unavailable begun unavailable =>
      exact orderly.of_same rfl rfl rfl fun empty => by simp [orderly.loadHasTurn empty] at begun
  | read probed =>
      exact orderly.of_same rfl rfl rfl fun empty => by simp [orderly.loadHasTurn empty] at probed
  | published line loaded => exact orderly.of_dismissed line rfl rfl rfl
  | failed line loaded => exact orderly.of_dismissed line rfl rfl rfl

theorem Run.orderly {source : Source} {history : List (Reloader × Step)} {final : Reloader}
    (run : Run (ofSource source) history final) : final.Orderly := by
  induction run with
  | nil => exact orderly_ofSource source
  | snoc _ taken ih => exact ih.of_step taken

end Reloader

end Audience
