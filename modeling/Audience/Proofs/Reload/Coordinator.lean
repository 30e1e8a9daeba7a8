import Audience.Proofs.Reload.Accounts
import Audience.Reload.Coordinator

namespace Audience

/-! Runs of a coordinator.

`Effect` says what a step away from the calls does to the worker, its notices and the line, and
leaves out the rest.  The worker goes through its reloads one by one: it takes up a notice, begins a
load and ends it, and does nothing else of the kind in between.
-/

namespace Reloader

def isNotice (reloader : Reloader) : Step → Bool
  | .notify => true
  | .announce => reloader.listening
  | _ => false

/-- Whether a step is of no concern to the worker. -/
def isAside (reloader : Reloader) : Step → Bool
  | .put _ _ | .replace _ | .setAvailable _ | .setDisk _ => true
  | .announce => !reloader.listening
  | _ => false

/-- The number of steps from here to the end of a load. -/
def remaining : Option LoadPhase → Nat
  | none => 4
  | some .begun => 3
  | some .probed => 2
  | some (.loaded _) => 1

/-- The line and the load of the first in it are as they were. -/
structure SameLine (before after : Reloader) : Prop where
  line : after.line = before.line
  load : after.load = before.load
  stopping : after.stopping = before.stopping

/-- The worker and the notice that is kept for it are as they were. -/
structure SameWorker (before after : Reloader) : Prop where
  worker : after.worker = before.worker
  permit : after.permit = before.permit
  stopping : after.stopping = before.stopping

inductive Effect (before : Reloader) : Step → Reloader → Prop where
  | aside {step : Step} {after : Reloader} (isAside : before.isAside step = true)
      (worker : SameWorker before after) (line : SameLine before after) : Effect before step after
  | woke {step : Step} {after : Reloader} (isNotice : before.isNotice step = true)
      (waiting : before.worker = some .waiting) (worker : after.worker = some .notified)
      (permit : after.permit = before.permit) (line : SameLine before after) :
      Effect before step after
  | kept {step : Step} {after : Reloader} (isNotice : before.isNotice step = true)
      (busy : before.worker ≠ some .waiting) (worker : after.worker = before.worker)
      (permit : after.permit = true) (line : SameLine before after) : Effect before step after
  | requested {ticket : Nat} :
      Effect before (.request ticket) { before with line := before.line ++ [.request ticket] }
  | foundKept (looking : before.worker = some .looking) (kept : before.permit = true) :
      Effect before .look
        { before with
          permit := false, worker := some .reloading, line := before.line ++ [.worker] }
  | foundNothing (looking : before.worker = some .looking) (nothing : before.permit = false) :
      Effect before .look { before with worker := some .waiting }
  | took (notified : before.worker = some .notified) :
      Effect before .take
        { before with worker := some .reloading, line := before.line ++ [.worker] }
  | quit (stopping : before.stopping = true)
      (idle : before.worker = some .looking ∨ before.worker = some .waiting) :
      Effect before .quit { before with worker := none, stopping := false }
  | quitNotified (stopping : before.stopping = true) (notified : before.worker = some .notified) :
      Effect before .quit { before with worker := none, stopping := false, permit := true }
  | begun {party : Party} {rest : List Party} {after : Reloader}
      (waiting : before.line = party :: rest) (free : before.load = none)
      (load : after.load = some .begun) (line : after.line = before.line)
      (worker : SameWorker before after) : Effect before .begin after
  | advanced {step : Step} {after : Reloader} (advance : step = .probe ∨ step = .read)
      (underWay : before.load.isSome = true) (still : after.load.isSome = true)
      (further : remaining after.load < remaining before.load) (line : after.line = before.line)
      (worker : SameWorker before after) : Effect before step after
  | finished {party : Party} {rest : List Party} {outcome : Except LoadError Catalog}
      {after : Reloader} (waiting : before.line = party :: rest)
      (loaded : before.load = some (.loaded outcome)) (line : after.line = rest)
      (load : after.load = none)
      (worker : after.worker = if party = .worker then some .looking else before.worker)
      (permit : after.permit = before.permit) (stopping : after.stopping = before.stopping) :
      Effect before .finish after

variable {before after : Reloader} {step : Step}

theorem effect_of_step (taken : before.step step = some after)
    (noCall : Coordinator.isCall step = false) : Effect before step after := by
  cases transition_of_step taken with
  | alreadyStarted going running => cases noCall
  | started going idle => cases noCall
  | stopped going => cases noCall
  | notified noticed =>
      cases noticed with
      | woke waiting => exact .woke rfl waiting rfl rfl ⟨rfl, rfl, rfl⟩
      | kept busy => exact .kept rfl busy rfl rfl ⟨rfl, rfl, rfl⟩
  | announced stored listening noticed =>
      cases noticed with
      | woke waiting => exact .woke listening waiting rfl rfl ⟨rfl, rfl, rfl⟩
      | kept busy => exact .kept listening busy rfl rfl ⟨rfl, rfl, rfl⟩
  | unheard stored deaf => exact .aside (by simp [isAside, deaf]) ⟨rfl, rfl, rfl⟩ ⟨rfl, rfl, rfl⟩
  | put stored => exact .aside rfl ⟨rfl, rfl, rfl⟩ ⟨rfl, rfl, rfl⟩
  | replaced stored => exact .aside rfl ⟨rfl, rfl, rfl⟩ ⟨rfl, rfl, rfl⟩
  | switched switched => exact .aside rfl ⟨rfl, rfl, rfl⟩ ⟨rfl, rfl, rfl⟩
  | diskChanged changed => exact .aside rfl ⟨rfl, rfl, rfl⟩ ⟨rfl, rfl, rfl⟩
  | requested => exact .requested
  | foundKept looking kept => exact .foundKept looking kept
  | foundNothing looking nothing => exact .foundNothing looking nothing
  | took notified => exact .took notified
  | quit stopping idle => exact .quit stopping idle
  | quitNotified stopping notified => exact .quitNotified stopping notified
  | begun line free => exact .begun line free rfl rfl ⟨rfl, rfl, rfl⟩
  | probed begun available =>
      exact .advanced (.inl rfl) (by simp [begun]) rfl (by simp [begun, remaining]) rfl
        ⟨rfl, rfl, rfl⟩
  | unavailable begun unavailable =>
      exact .advanced (.inl rfl) (by simp [begun]) rfl (by simp [begun, remaining]) rfl
        ⟨rfl, rfl, rfl⟩
  | read probed =>
      exact .advanced (.inr rfl) (by simp [probed]) rfl (by simp [probed, remaining]) rfl
        ⟨rfl, rfl, rfl⟩
  | published line loaded => exact .finished line loaded rfl rfl rfl rfl rfl
  | failed line loaded => exact .finished line loaded rfl rfl rfl rfl rfl

theorem orderly_spawn (orderly : before.Orderly) (idle : before.worker = none) :
    before.spawn.Orderly :=
  orderly.of_idle rfl rfl (by simp [idle]) (by simp [spawn]) fun _ => rfl

theorem Orderly.reloading (orderly : before.Orderly) (turn : before.turn = some .worker) :
    before.worker = some .reloading :=
  orderly.workerInLine.mp (List.mem_of_mem_head? turn)

theorem worker_of_step (orderly : before.Orderly) (taken : before.step step = some after)
    (noCall : Coordinator.isCall step = false) (stays : step ≠ .quit) :
    after.stopping = before.stopping ∧ (after.worker = none ↔ before.worker = none) := by
  cases effect_of_step taken noCall with
  | aside isAside worker line => exact ⟨worker.stopping, by rw [worker.worker]⟩
  | woke isNotice waiting worker permit line => exact ⟨line.stopping, by simp [worker, waiting]⟩
  | kept isNotice busy worker permit line => exact ⟨line.stopping, by rw [worker]⟩
  | requested => exact ⟨rfl, Iff.rfl⟩
  | foundKept looking kept => simp [looking]
  | foundNothing looking nothing => simp [looking]
  | took notified => simp [notified]
  | quit stopping idle => exact absurd rfl stays
  | quitNotified stopping notified => exact absurd rfl stays
  | begun waiting free load line worker => exact ⟨worker.stopping, by rw [worker.worker]⟩
  | advanced advance underWay still further line worker =>
      exact ⟨worker.stopping, by rw [worker.worker]⟩
  | @finished party rest outcome after waiting loaded line load worker permit stopping =>
      refine ⟨stopping, ?_⟩
      by_cases own : party = .worker
      · have reloading := orderly.reloading (by rw [turn, waiting, own]; rfl)
        simp [worker, own, reloading]
      · simp [worker, own]

theorem step_quit (taken : before.step .quit = some after) :
    before.stopping = true ∧ after.worker = none ∧ after.stopping = false := by
  cases effect_of_step taken rfl with
  | aside isAside => cases isAside
  | woke isNotice => cases isNotice
  | kept isNotice => cases isNotice
  | quit stopping idle => exact ⟨stopping, rfl, rfl⟩
  | quitNotified stopping notified => exact ⟨stopping, rfl, rfl⟩
  | advanced advance => simp at advance

inductive Mark where
  | taken
  | begun
  | ended (outcome : Except LoadError Catalog)

def Mark.isTaken : Mark → Bool
  | taken => true
  | _ => false

def Mark.isBegun : Mark → Bool
  | begun => true
  | _ => false

def Mark.isEnded : Mark → Bool
  | ended _ => true
  | _ => false

/-- A reload of the worker from its notice to its end. -/
def Mark.reload (outcome : Except LoadError Catalog) : List Mark :=
  [taken, begun, ended outcome]

def mark? (reloader : Reloader) : Step → Option Mark
  | .look => if reloader.worker = some .looking ∧ reloader.permit = true then some .taken else none
  | .take => if reloader.worker = some .notified then some .taken else none
  | .begin => if reloader.turn = some .worker then some .begun else none
  | .finish =>
      if reloader.turn = some .worker then (reloader.ending? .finish).map .ended else none
  | _ => none

theorem finish_of_ended {outcome : Except LoadError Catalog}
    (ended : before.mark? step = some (.ended outcome)) :
    step = .finish ∧ before.turn = some .worker := by
  cases step with
  | finish =>
      rw [mark?] at ended
      split at ended
      · next own => exact ⟨rfl, own⟩
      · cases ended
  | look => rw [mark?] at ended; split at ended <;> cases ended
  | take => rw [mark?] at ended; split at ended <;> cases ended
  | begin => rw [mark?] at ended; split at ended <;> cases ended
  | _ => cases ended

/-- What the worker has done about the reload that it is in. -/
def unfinished (reloader : Reloader) : List Mark :=
  if reloader.worker = some .reloading then
    if reloader.loading? = some .worker then [.taken, .begun] else [.taken]
  else []

theorem unfinished_of_ne (idle : after.worker ≠ some .reloading) : after.unfinished = [] :=
  if_neg idle

theorem unfinished_of_same (worker : after.worker = before.worker)
    (loading : after.loading? = before.loading?) : after.unfinished = before.unfinished := by
  rw [unfinished, unfinished, worker, loading]

theorem Noticed.stopping (noticed : Noticed before after) : after.stopping = before.stopping := by
  cases noticed <;> rfl

theorem Noticed.unfinished (noticed : Noticed before after) :
    after.unfinished = before.unfinished := by
  cases noticed with
  | woke waiting => rw [unfinished_of_ne (by simp), unfinished_of_ne (by simp [waiting])]
  | kept busy => rfl

theorem mark?_of_isNotice (isNotice : before.isNotice step = true) : before.mark? step = none := by
  cases step <;> first | rfl | cases isNotice

theorem mark?_of_isAside (isAside : before.isAside step = true) : before.mark? step = none := by
  cases step <;> first | rfl | cases isAside

/-- A step takes the worker further in the reload that it is in, or ends that reload. -/
inductive Advance (before after : Reloader) (step : Step) : Prop where
  | within (same : before.unfinished ++ (before.mark? step).toList = after.unfinished)
  | ends (outcome : Except LoadError Catalog) (idle : after.unfinished = [])
      (whole : before.unfinished ++ (before.mark? step).toList = Mark.reload outcome)

theorem Advance.of_unmarked (unmarked : before.mark? step = none)
    (same : after.unfinished = before.unfinished) : Advance before after step :=
  .within (by rw [unmarked, same, Option.toList_none, List.append_nil])

theorem loading?_ne_worker (orderly : before.Orderly) (idle : before.worker ≠ some .reloading) :
    before.loading? ≠ some .worker := by
  intro own
  rw [loading?] at own
  split at own
  · exact idle (orderly.reloading own)
  · cases own

theorem Advance.of_queued (orderly : before.Orderly) (idle : before.worker ≠ some .reloading)
    (taken : before.mark? step = some .taken) (worker : after.worker = some .reloading)
    (line : after.line = before.line ++ [.worker]) (load : after.load = before.load) :
    Advance before after step := by
  have others : after.loading? ≠ some .worker := by
    rw [loading?_of_grown orderly line load]
    exact loading?_ne_worker orderly idle
  refine .within ?_
  rw [taken, unfinished_of_ne idle, unfinished, if_pos worker, if_neg others]
  rfl

theorem advance_of_step (orderly : before.Orderly) (taken : before.step step = some after)
    (noCall : Coordinator.isCall step = false) : Advance before after step := by
  cases effect_of_step taken noCall with
  | aside isAside worker line =>
      exact .of_unmarked (mark?_of_isAside isAside) (unfinished_of_same worker.worker
        (by rw [loading?, loading?, turn, turn, line.load, line.line]))
  | woke isNotice waiting worker permit line =>
      refine .of_unmarked (mark?_of_isNotice isNotice) ?_
      rw [unfinished_of_ne (by simp [worker]), unfinished_of_ne (by simp [waiting])]
  | kept isNotice busy worker permit line =>
      exact .of_unmarked (mark?_of_isNotice isNotice) (unfinished_of_same worker
        (by rw [loading?, loading?, turn, turn, line.load, line.line]))
  | requested =>
      exact .of_unmarked rfl (unfinished_of_same rfl (loading?_of_grown orderly rfl rfl))
  | foundKept looking kept =>
      exact .of_queued orderly (by simp [looking]) (by simp [mark?, looking, kept]) rfl rfl rfl
  | foundNothing looking nothing =>
      refine .of_unmarked (by simp [mark?, nothing]) ?_
      rw [unfinished_of_ne (by simp), unfinished_of_ne (by simp [looking])]
  | took notified =>
      exact .of_queued orderly (by simp [notified]) (by simp [mark?, notified]) rfl rfl rfl
  | quit stopping idle =>
      refine .of_unmarked rfl ?_
      rw [unfinished_of_ne (by simp), unfinished_of_ne]
      rcases idle with looking | waiting <;> simp [*]
  | quitNotified stopping notified =>
      refine .of_unmarked rfl ?_
      rw [unfinished_of_ne (by simp), unfinished_of_ne (by simp [notified])]
  | @begun party rest after waiting free load line worker =>
      have first : before.turn = some party := by rw [turn, waiting]; rfl
      have free : before.loading? = none := by simp [loading?, free]
      have begun : after.loading? = some party := by
        simp [loading?, load, turn, line, waiting]
      by_cases own : party = .worker
      · subst own
        have reloading := orderly.reloading first
        refine .within ?_
        simp [mark?, first, unfinished, reloading, worker.worker, free, begun]
      · refine .of_unmarked (by simp [mark?, first, own]) ?_
        simp [unfinished, worker.worker, free, begun, own]
  | advanced advance underWay still further line worker =>
      refine .of_unmarked ?_ (unfinished_of_same worker.worker ?_)
      · rcases advance with rfl | rfl <;> rfl
      · rw [loading?, loading?, turn, turn, underWay, still, line]
  | @finished party rest outcome after waiting loaded line load worker permit stopping =>
      have first : before.turn = some party := by rw [turn, waiting]; rfl
      have underWay : before.loading? = some party := by simp [loading?, loaded, first]
      have free : after.loading? = none := by simp [loading?, load]
      by_cases own : party = .worker
      · subst own
        have reloading := orderly.reloading first
        refine .ends outcome (unfinished_of_ne (by simp [worker])) ?_
        simp [mark?, ending?, first, loaded, unfinished, reloading, underWay, Mark.reload]
      · refine .of_unmarked (by simp [mark?, first, own]) ?_
        simp [unfinished, worker, underWay, free, own]

end Reloader

namespace Coordinator

inductive Transition (before : Coordinator) : Step → Coordinator → Prop where
  | alreadyStarted (free : before.call = none) (running : before.reloader.worker ≠ none) :
      Transition before .start before
  | spawned (free : before.call = none) (idle : before.reloader.worker = none) :
      Transition before .start ⟨before.reloader.spawn, some .starting⟩
  | greeted {after : Reloader} (starting : before.call = some .starting)
      (noticed : Reloader.Noticed before.reloader after) : Transition before .greet ⟨after, none⟩
  | toldToStop (free : before.call = none) (going : before.reloader.stopping = false) :
      Transition before .shutDown
        ⟨{ before.reloader with stopping := before.reloader.worker.isSome }, some .stopping⟩
  | left (stopping : before.call = some .stopping) (gone : before.reloader.worker = none) :
      Transition before .leave ⟨before.reloader, none⟩
  | went {step : Reloader.Step} {after : Reloader} (noCall : isCall step = false)
      (taken : before.reloader.step step = some after) :
      Transition before (.go step) ⟨after, before.call⟩

variable {before after : Coordinator} {act : Step} {history : List (Coordinator × Step)}

theorem transition_of_step (taken : before.step act = some after) :
    Transition before act after := by
  cases act with
  | start =>
      simp only [step] at taken
      split at taken
      · next free =>
          split at taken
          · next running =>
              cases taken
              exact .alreadyStarted free (by simp [running])
          · next idle =>
              cases taken
              exact .spawned free idle
      · cases taken
  | greet =>
      simp only [step] at taken
      split at taken
      · next starting =>
          cases taken
          exact .greeted starting (Reloader.noticed_notify before.reloader)
      · cases taken
  | shutDown =>
      simp only [step] at taken
      split at taken
      · next free =>
          obtain ⟨reloader, stopped, rfl⟩ := Option.map_eq_some_iff.mp taken
          cases Reloader.transition_of_step stopped with
          | stopped going => exact .toldToStop free going
      · cases taken
  | leave =>
      simp only [step] at taken
      split at taken
      · next gone =>
          cases taken
          exact .left gone.1 gone.2
      · cases taken
  | go inner =>
      simp only [step] at taken
      split at taken
      · cases taken
      · next noCall =>
          obtain ⟨reloader, gone, rfl⟩ := Option.map_eq_some_iff.mp taken
          exact .went (Bool.eq_false_iff.mpr noCall) gone

/-- A run of calls, requests, notices and writes in any order. -/
abbrev Run (source : Source) : List (Coordinator × Step) → Coordinator → Prop :=
  Trace step (ofSource source)

/-- A worker that is being stopped has a call that waits for its end. -/
structure Coordinated (coordinator : Coordinator) : Prop where
  orderly : coordinator.reloader.Orderly
  starting : coordinator.call = some .starting → coordinator.reloader.worker ≠ none
  stopping : coordinator.reloader.stopping = true ↔
    coordinator.call = some .stopping ∧ coordinator.reloader.worker ≠ none

theorem coordinated_ofSource (source : Source) : (ofSource source).Coordinated where
  orderly := Reloader.orderly_ofSource source
  starting := nofun
  stopping := by simp [ofSource, Reloader.ofSource]

theorem Coordinated.of_step (coordinated : before.Coordinated)
    (taken : before.step act = some after) : after.Coordinated := by
  have starting := coordinated.starting
  have stopping := coordinated.stopping
  cases transition_of_step taken with
  | alreadyStarted free running => exact coordinated
  | spawned free idle =>
      refine ⟨Reloader.orderly_spawn coordinated.orderly idle, by simp [Reloader.spawn], ?_⟩
      simpa [Reloader.spawn, free] using stopping
  | greeted greeting noticed =>
      refine ⟨coordinated.orderly.of_noticed noticed, nofun, ?_⟩
      simpa [noticed.stopping, greeting] using stopping
  | toldToStop free going =>
      refine ⟨coordinated.orderly.of_same rfl rfl rfl coordinated.orderly.loadHasTurn, nofun, ?_⟩
      simp [Option.isSome_iff_ne_none]
  | left stopping gone =>
      refine ⟨coordinated.orderly, nofun, ?_⟩
      simpa [gone] using coordinated.stopping
  | @went inner after noCall moved =>
      have orderly := coordinated.orderly.of_step moved
      by_cases quits : inner = .quit
      · subst quits
        obtain ⟨isStopping, gone, still⟩ := Reloader.step_quit moved
        have waited := (stopping.mp isStopping).1
        exact ⟨orderly, by simp [waited], by simp [gone, still]⟩
      · obtain ⟨same, kept⟩ := Reloader.worker_of_step coordinated.orderly moved noCall quits
        exact ⟨orderly, by rwa [ne_eq, kept], by rw [same, ne_eq, kept]; exact stopping⟩

theorem coordinated_of_run {source : Source} {final : Coordinator}
    (run : Run source history final) : final.Coordinated := by
  induction run with
  | nil => exact coordinated_ofSource source
  | snoc _ taken ih => exact ih.of_step taken

theorem going_of_step (going : before.reloader.stopping = false)
    (taken : before.step act = some after) (unstopped : act ≠ .shutDown)
    (orderly : before.reloader.Orderly) : after.reloader.stopping = false := by
  cases transition_of_step taken with
  | alreadyStarted free running => exact going
  | spawned free idle => exact going
  | greeted starting noticed => exact noticed.stopping.trans going
  | toldToStop free going => exact absurd rfl unstopped
  | left stopping gone => exact going
  | @went inner after noCall moved =>
      by_cases quits : inner = .quit
      · subst quits
        exact (Reloader.step_quit moved).2.2
      · exact (Reloader.worker_of_step orderly moved noCall quits).1.trans going

theorem going_of_run {source : Source} {final : Coordinator} (run : Run source history final)
    (unstopped : ∀ entry ∈ history, entry.2 ≠ .shutDown) : final.reloader.stopping = false := by
  induction run with
  | nil => rfl
  | snoc earlier taken ih =>
      obtain ⟨others, other⟩ := List.forall_mem_append.mp unstopped
      exact going_of_step (ih others) taken (other _ List.mem_cons_self)
        (coordinated_of_run earlier).orderly

/-- The step of the reloader that it is, or the call that it is part of. -/
def Step.inner : Step → Reloader.Step
  | .start | .greet => .start
  | .shutDown | .leave => .stop
  | .go step => step

def reloads (history : List (Coordinator × Step)) : List (Reloader × Reloader.Step) :=
  history.map fun (coordinator, act) => (coordinator.reloader, act.inner)

@[simp] theorem reloads_snoc (history : List (Coordinator × Step)) (coordinator : Coordinator)
    (act : Step) :
    reloads (history ++ [(coordinator, act)]) =
      reloads history ++ [(coordinator.reloader, act.inner)] := by
  rw [reloads, List.map_append]
  rfl

theorem step_inner (taken : before.step act = some after) (noCall : isCall act.inner = false) :
    before.reloader.step act.inner = some after.reloader := by
  cases transition_of_step taken with
  | went noCall moved => exact moved
  | _ => cases noCall

theorem untouched_of_call (taken : before.step act = some after) (call : isCall act.inner = true) :
    Reloader.Untouched before.reloader after.reloader := by
  cases transition_of_step taken with
  | greeted starting noticed => exact noticed.untouched
  | went noCall moved => exact absurd call (Bool.eq_false_iff.mp noCall)
  | _ => exact .of_same rfl rfl rfl rfl rfl rfl

theorem unfinished_of_call (taken : before.step act = some after)
    (call : isCall act.inner = true) : after.reloader.unfinished = before.reloader.unfinished := by
  have same := (untouched_of_call taken call).loading
  cases transition_of_step taken with
  | spawned free idle =>
      rw [Reloader.unfinished_of_ne (by simp [Reloader.spawn]),
        Reloader.unfinished_of_ne (by simp [idle])]
  | greeted starting noticed => exact noticed.unfinished
  | went noCall moved => exact absurd call (Bool.eq_false_iff.mp noCall)
  | _ => exact Reloader.unfinished_of_same rfl same

variable {source : Source} {final : Coordinator}

/-- The worker has been through whole reloads, except for the one that it is in. -/
theorem marks_of_run (run : Run source history final) :
    ∃ outcomes : List (Except LoadError Catalog), seen Reloader.mark? (reloads history) =
      outcomes.flatMap Reloader.Mark.reload ++ final.reloader.unfinished := by
  induction run with
  | nil => exact ⟨[], rfl⟩
  | @snoc history before after act earlier taken ih =>
      obtain ⟨outcomes, marks⟩ := ih
      rw [reloads_snoc, seen_snoc, marks, List.append_assoc]
      cases call : isCall act.inner with
      | true =>
          have unmarked : before.reloader.mark? act.inner = none := by
            revert call
            cases act.inner <;> first | exact fun _ => rfl | exact nofun
          refine ⟨outcomes, ?_⟩
          rw [unmarked, unfinished_of_call taken call, Option.toList_none, List.append_nil]
      | false =>
          have orderly := (coordinated_of_run earlier).orderly
          cases Reloader.advance_of_step orderly (step_inner taken call) call with
          | within same => exact ⟨outcomes, by rw [same]⟩
          | ends outcome idle whole =>
              refine ⟨outcomes ++ [outcome], ?_⟩
              rw [whole, idle, List.flatMap_append, List.append_nil]
              simp

end Coordinator

end Audience
