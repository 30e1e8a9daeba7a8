import Audience.Proofs.Endless
import Audience.Proofs.Reload.Coordinator
import Mathlib.Data.List.Basic

namespace Audience

/-! What becomes of a worker that has a notice to take up.

If the parties go on with what they can do, the worker gets in line for its notice, those in front
of it leave the line one after another, and its own load comes to an end.  Only a call that tells
the worker to stop before it is in line can keep it from that.
-/

namespace Coordinator

inductive Task where
  /-- The worker looks for notices and takes them up. -/
  | listen
  /-- Whoever has the turn loads. -/
  | load
  /-- A call that has set up the worker sends it a first notice. -/
  | greet

def Task.Has : Task → Step → Prop
  | listen, act => act = .go .look ∨ act = .go .take
  | load, act => act = .go .begin ∨ act = .go .probe ∨ act = .go .read ∨ act = .go .finish
  | greet, act => act = .greet

/-- Every party does at last what it can do all the time. -/
def IsFair {initial : Coordinator} (run : Endless step initial) : Prop :=
  ∀ task : Task, run.Fair task.Has

structure AtRest (coordinator : Coordinator) : Prop where
  call : coordinator.call = none
  line : coordinator.reloader.line = []
  load : coordinator.reloader.load = none
  worker : coordinator.reloader.worker = some .waiting ∨ coordinator.reloader.worker = none

theorem AtRest.step_eq_none {coordinator : Coordinator} (rest : coordinator.AtRest) {task : Task}
    {act : Step} (has : task.Has act) : coordinator.step act = none := by
  obtain ⟨call, line, load, worker⟩ := rest
  cases task with
  | listen =>
      rcases worker with waiting | gone <;> rcases has with rfl | rfl <;>
        simp [step, isCall, Reloader.step, *]
  | load =>
      rcases has with rfl | rfl | rfl | rfl <;> simp [step, isCall, Reloader.step, line, load]
  | greet =>
      cases has
      simp [step, call]

/-- A run in which everybody comes to rest is the beginning of a fair one. -/
theorem exists_isFair {history : List (Coordinator × Step)} {initial final : Coordinator}
    (run : Trace step initial history final) (rest : final.AtRest) :
    ∃ later : Endless step initial,
      (∀ time act, later.act time = some act → act ∈ history.map Prod.snd) ∧ IsFair later := by
  obtain ⟨later, acts, fair⟩ := Endless.exists_fair run
  exact ⟨later, acts, fun task => fair task.Has fun _ has => rest.step_eq_none has⟩

/-- The worker is in line, or will find a notice when it goes on. -/
def Summoned (coordinator : Coordinator) : Prop :=
  match coordinator.reloader.worker with
  | some .looking => coordinator.reloader.permit = true ∨ coordinator.call = some .starting
  | some .waiting => coordinator.call = some .starting
  | some .notified | some .reloading => True
  | none => False

/-- How far a summoned worker is from the line. -/
def distance (coordinator : Coordinator) : Nat :=
  match coordinator.reloader.worker with
  | some .looking => if coordinator.reloader.permit then 2 else 4
  | some .waiting => 3
  | some .notified => 1
  | some .reloading | none => 0

/-- Without a notice the worker depends on the call that has set it up. -/
def nextTask (distance : Nat) : Task :=
  if distance ≤ 2 then .listen else .greet

variable {before after : Coordinator} {act : Step}

/-- The worker stays on its way to the line, and comes nearer if what that takes is done. -/
structure Nears (before : Coordinator) (act : Step) (after : Coordinator) : Prop where
  going : after.reloader.stopping = false
  summoned : after.Summoned
  nearer : after.distance < before.distance ∨
    after.distance = before.distance ∧ ¬(nextTask before.distance).Has act

namespace Nears

theorem of_same (summoned : before.Summoned) (going : after.reloader.stopping = false)
    (worker : after.reloader.worker = before.reloader.worker)
    (permit : after.reloader.permit = before.reloader.permit) (call : after.call = before.call)
    (other : ∀ task, task ≠ .load → ¬Task.Has task act) : Nears before act after where
  going
  summoned := by rwa [Summoned, worker, permit, call]
  nearer := by
    refine .inr ⟨by rw [distance, distance, worker, permit], other _ ?_⟩
    rw [nextTask]
    split <;> simp

theorem of_woke (going : after.reloader.stopping = false)
    (waiting : before.reloader.worker = some .waiting)
    (worker : after.reloader.worker = some .notified) : Nears before act after where
  going
  summoned := by simp [Summoned, worker]
  nearer := by simp [distance, waiting, worker]

theorem of_kept (summoned : before.Summoned) (going : after.reloader.stopping = false)
    (idle : before.reloader.worker ≠ some .reloading)
    (busy : before.reloader.worker ≠ some .waiting)
    (worker : after.reloader.worker = before.reloader.worker)
    (permit : after.reloader.permit = true) (other : ¬Task.Has .listen act) :
    Nears before act after := by
  rcases state : before.reloader.worker with _ | _ | _ | _ | _
  · simp [Summoned, state] at summoned
  · refine ⟨going, by simp [Summoned, worker, state, permit], ?_⟩
    cases kept : before.reloader.permit <;>
      simp [distance, worker, state, permit, kept, nextTask, other]
  · exact absurd state busy
  · refine ⟨going, by simp [Summoned, worker, state], ?_⟩
    simp [distance, worker, state, nextTask, other]
  · exact absurd state idle

end Nears

theorem Task.not_has_go {inner : Reloader.Step} (notLook : inner ≠ .look) (notTake : inner ≠ .take)
    (task : Task) (notLoad : task ≠ .load) : ¬task.Has (.go inner) := by
  cases task <;> simp_all [Task.Has]

theorem nears_of_step (orderly : before.reloader.Orderly)
    (going : before.reloader.stopping = false) (summoned : before.Summoned)
    (idle : before.reloader.worker ≠ some .reloading) (taken : before.step act = some after)
    (unstopped : act ≠ .shutDown) : Nears before act after := by
  cases transition_of_step taken with
  | alreadyStarted free running =>
      exact .of_same summoned going rfl rfl rfl fun task _ => by cases task <;> simp [Task.Has]
  | spawned free idle => simp [Summoned, idle] at summoned
  | greeted starting noticed =>
      cases noticed with
      | woke waiting => exact .of_woke going waiting rfl
      | kept busy => exact .of_kept summoned going idle busy rfl rfl (by simp [Task.Has])
  | toldToStop free going =>
      -- Nothing else leads away from the line.
      exact absurd rfl unstopped
  | left stopping gone => simp [Summoned, gone] at summoned
  | @went inner after noCall moved =>
      cases Reloader.effect_of_step moved noCall with
      | aside isAside worker line =>
          refine .of_same summoned (worker.stopping.trans going) worker.worker worker.permit rfl
            (Task.not_has_go ?_ ?_) <;> rintro rfl <;> cases isAside
      | woke isNotice waiting worker permit line =>
          exact .of_woke (line.stopping.trans going) waiting worker
      | kept isNotice busy worker permit line =>
          refine .of_kept summoned (line.stopping.trans going) idle busy worker permit
            (Task.not_has_go ?_ ?_ _ (by simp)) <;> rintro rfl <;> cases isNotice
      | requested => exact .of_same summoned going rfl rfl rfl (Task.not_has_go (by simp) (by simp))
      | foundKept looking kept =>
          exact ⟨going, by simp [Summoned], by simp [distance, looking, kept]⟩
      | foundNothing looking nothing =>
          have greeted : before.call = some .starting := by
            simpa [Summoned, looking, nothing] using summoned
          exact ⟨going, by simp [Summoned, greeted], by simp [distance, looking, nothing]⟩
      | took notified => exact ⟨going, by simp [Summoned], by simp [distance, notified]⟩
      | quit stopping => rw [going] at stopping; cases stopping
      | quitNotified stopping => rw [going] at stopping; cases stopping
      | begun waiting free load line worker =>
          exact .of_same summoned (worker.stopping.trans going) worker.worker worker.permit rfl
            (Task.not_has_go (by simp) (by simp))
      | advanced advance underWay still further line worker =>
          refine .of_same summoned (worker.stopping.trans going) worker.worker worker.permit rfl
            (Task.not_has_go ?_ ?_) <;> rintro rfl <;> simp at advance
      | @finished party rest outcome after waiting loaded line load worker permit stopping =>
          have other : party ≠ .worker := by
            rintro rfl
            exact idle (orderly.reloading (by rw [Reloader.turn, waiting]; rfl))
          rw [if_neg other] at worker
          exact .of_same summoned (stopping.trans going) worker permit rfl
            (Task.not_has_go (by simp) (by simp))

theorem offers_nextTask (summoned : before.Summoned)
    (idle : before.reloader.worker ≠ some .reloading) :
    ∃ act, (nextTask before.distance).Has act ∧ (before.step act).isSome = true := by
  rcases state : before.reloader.worker with _ | _ | _ | _ | _
  · simp [Summoned, state] at summoned
  · cases kept : before.reloader.permit with
    | true => exact ⟨.go .look, by simp [distance, state, kept, nextTask, Task.Has], by
        simp [step, isCall, Reloader.step, state, kept]⟩
    | false =>
        have greeted : before.call = some .starting := by
          simpa [Summoned, state, kept] using summoned
        exact ⟨.greet, by simp [distance, state, kept, nextTask, Task.Has], by
          simp [step, greeted]⟩
  · have greeted : before.call = some .starting := by simpa [Summoned, state] using summoned
    exact ⟨.greet, by simp [distance, state, nextTask, Task.Has], by simp [step, greeted]⟩
  · exact ⟨.go .take, by simp [distance, state, nextTask, Task.Has], by
      simp [step, isCall, Reloader.step, state]⟩
  · exact absurd state idle

/-- The number of steps in front of the end of the worker's own load. -/
def ahead (reloader : Reloader) : Nat :=
  4 * reloader.line.idxOf .worker + Reloader.remaining reloader.load

theorem not_has_load {inner : Reloader.Step}
    (aside : inner ≠ .begin ∧ inner ≠ .probe ∧ inner ≠ .read ∧ inner ≠ .finish) :
    ¬Task.Has .load (.go inner) := by
  simp [Task.Has, aside]

structure MovesUp (before : Coordinator) (act : Step) (after : Coordinator) : Prop where
  reloading : after.reloader.worker = some .reloading
  nearer : ahead after.reloader < ahead before.reloader ∨
    ahead after.reloader = ahead before.reloader ∧ ¬Task.Has .load act

theorem MovesUp.of_same (reloading : after.reloader.worker = some .reloading)
    (line : Reloader.SameLine before.reloader after.reloader) (other : ¬Task.Has .load act) :
    MovesUp before act after :=
  ⟨reloading, .inr ⟨by rw [ahead, ahead, line.line, line.load], other⟩⟩

theorem movesUp_of_step (orderly : before.reloader.Orderly)
    (reloading : before.reloader.worker = some .reloading) (taken : before.step act = some after)
    (unfinished : act = .go .finish → before.reloader.turn ≠ some .worker) :
    MovesUp before act after := by
  have inLine := orderly.workerInLine.mpr reloading
  cases transition_of_step taken with
  | alreadyStarted free running =>
      exact .of_same reloading ⟨rfl, rfl, rfl⟩ (by simp [Task.Has])
  | spawned free idle => simp [reloading] at idle
  | greeted starting noticed =>
      cases noticed with
      | woke waiting => simp [reloading] at waiting
      | kept busy => exact .of_same reloading ⟨rfl, rfl, rfl⟩ (by simp [Task.Has])
  | toldToStop free going =>
      exact ⟨reloading, .inr ⟨rfl, by simp [Task.Has]⟩⟩
  | left stopping gone => simp [reloading] at gone
  | @went inner after noCall moved =>
      cases Reloader.effect_of_step moved noCall with
      | aside isAside worker line =>
          refine .of_same (worker.worker.trans reloading) line (not_has_load ?_)
          refine ⟨?_, ?_, ?_, ?_⟩ <;> rintro rfl <;> cases isAside
      | woke isNotice waiting => simp [reloading] at waiting
      | kept isNotice busy worker permit line =>
          refine .of_same (worker.trans reloading) line (not_has_load ?_)
          refine ⟨?_, ?_, ?_, ?_⟩ <;> rintro rfl <;> cases isNotice
      | requested =>
          refine ⟨reloading, .inr ⟨?_, by simp [Task.Has]⟩⟩
          rw [ahead, ahead, List.idxOf_append_of_mem inLine]
      | foundKept looking => simp [reloading] at looking
      | foundNothing looking => simp [reloading] at looking
      | took notified => simp [reloading] at notified
      | quit stopping idle => simp [reloading] at idle
      | quitNotified stopping notified => simp [reloading] at notified
      | begun waiting free load line worker =>
          refine ⟨worker.worker.trans reloading, .inl ?_⟩
          simp [ahead, line, load, free, Reloader.remaining]
      | advanced advance underWay still further line worker =>
          refine ⟨worker.worker.trans reloading, .inl ?_⟩
          simp only [ahead, line]
          omega
      | @finished party rest outcome after waiting loaded line load worker permit stopping =>
          have other : party ≠ .worker := by
            rintro rfl
            exact unfinished rfl (by rw [Reloader.turn, waiting]; rfl)
          rw [if_neg other] at worker
          refine ⟨worker.trans reloading, .inl ?_⟩
          rw [ahead, ahead, waiting, line, load, loaded, List.idxOf_cons_ne rest other]
          simp only [Reloader.remaining]
          omega

theorem offers_load (orderly : before.reloader.Orderly)
    (reloading : before.reloader.worker = some .reloading) :
    ∃ act, Task.Has .load act ∧ (before.step act).isSome = true := by
  have inLine := orderly.workerInLine.mpr reloading
  rcases waiting : before.reloader.line with _ | ⟨party, rest⟩
  · rw [waiting] at inLine
    cases inLine
  rcases load : before.reloader.load with _ | _ | _ | outcome
  · exact ⟨.go .begin, by simp [Task.Has], by simp [step, isCall, Reloader.step, waiting, load]⟩
  · refine ⟨.go .probe, by simp [Task.Has], ?_⟩
    cases available : before.reloader.source.isAvailable <;>
      simp [step, isCall, Reloader.step, load, available]
  · exact ⟨.go .read, by simp [Task.Has], by simp [step, isCall, Reloader.step, load]⟩
  · exact ⟨.go .finish, by simp [Task.Has], by simp [step, isCall, Reloader.step, waiting, load]⟩

/-- A load of the worker ends: its content is published or its failure is recorded. -/
structure EndsLoad (before : Coordinator) (act : Step) (after : Coordinator) : Prop where
  finish : act = .go .finish
  own : before.reloader.turn = some .worker
  taken : before.step act = some after
  concluded : (∃ catalog, after.reloader.cache = before.reloader.cache.publish catalog) ∨
    ∃ message, after.reloader.cache = before.reloader.cache.recordFailure message

theorem endsLoad_of_finish (own : before.reloader.turn = some .worker)
    (taken : before.step (.go .finish) = some after) : EndsLoad before (.go .finish) after := by
  refine ⟨rfl, own, taken, ?_⟩
  obtain ⟨party, rest, outcome, -, -, result⟩ :=
    Reloader.exists_of_finish (step_inner taken rfl)
  rw [result]
  cases outcome with
  | ok catalog => exact .inl ⟨catalog, rfl⟩
  | error cause => exact .inr ⟨cause.message, rfl⟩

theorem endsLoad_of_ended {outcome : Except LoadError Catalog}
    (ended : before.reloader.mark? act.inner = some (.ended outcome))
    (taken : before.step act = some after) : EndsLoad before act after := by
  obtain ⟨finish, own⟩ := Reloader.finish_of_ended ended
  cases act with
  | go inner =>
      cases finish
      exact endsLoad_of_finish own taken
  | _ => cases finish

section

variable {initial : Coordinator} (run : Endless step initial)

def EndsLoadAt (time : Nat) : Prop :=
  ∃ act, run.act time = some act ∧ EndsLoad (run.state time) act (run.state (time + 1))

/-- No call tells the worker to stop before it has taken up a notice. -/
def TakesUpFirst : Prop :=
  ∀ time, run.act time = some .shutDown →
    ∃ earlier ≤ time, (run.state earlier).reloader.worker = some .reloading

theorem coordinated_at (coordinated : initial.Coordinated) (time : Nat) :
    (run.state time).Coordinated :=
  run.invariant coordinated (fun _ _ _ before taken => before.of_step taken) time

variable {run}

theorem endsLoad_of_reloading (coordinated : initial.Coordinated) (fair : IsFair run) {first : Nat}
    (reloading : (run.state first).reloader.worker = some .reloading) :
    ∃ time ≥ first, EndsLoadAt run time := by
  -- The rank counts the steps of those in front of the worker and its own.
  have progress : ∀ time, (run.state time).reloader.worker = some .reloading →
      ¬EndsLoadAt run time → (run.state (time + 1)).reloader.worker = some .reloading ∧
        run.Offers (Task.Has .load) time ∧
        (ahead (run.state (time + 1)).reloader < ahead (run.state time).reloader ∨
          ahead (run.state (time + 1)).reloader = ahead (run.state time).reloader ∧
            ¬run.Does (Task.Has .load) time) := by
    intro time reloading unended
    have orderly := (coordinated_at run coordinated time).orderly
    have offers := offers_load orderly reloading
    rcases run.next time with ⟨idle, same⟩ | ⟨act, acted, taken⟩
    · rw [same]
      exact ⟨reloading, offers, .inr ⟨rfl, run.not_does_of_none idle⟩⟩
    · have moves := movesUp_of_step orderly reloading taken fun finish own =>
        unended ⟨act, acted, finish ▸ endsLoad_of_finish own (finish ▸ taken)⟩
      exact ⟨moves.reloading, offers,
        moves.nearer.imp_right fun kept => ⟨kept.1, run.not_does_of_act acted kept.2⟩⟩
  obtain ⟨time, late, -, ended⟩ := run.eventually_of_rank
    (fun time => ahead (run.state time).reloader) (fun _ => Task.Has .load)
    (fun _ => fair .load) progress reloading
  exact ⟨time, late, ended⟩

theorem reloading_of_summoned (coordinated : initial.Coordinated) (fair : IsFair run) {first : Nat}
    (going : (run.state first).reloader.stopping = false) (summoned : (run.state first).Summoned) :
    ∃ time ≥ first, (run.state time).reloader.worker = some .reloading ∨
      run.act time = some .shutDown := by
  -- With a notice the worker has only to go on; without one it takes the call that has set it up.
  have progress : ∀ time, (run.state time).reloader.stopping = false ∧
        (run.state time).Summoned →
      ¬((run.state time).reloader.worker = some .reloading ∨ run.act time = some .shutDown) →
      ((run.state (time + 1)).reloader.stopping = false ∧ (run.state (time + 1)).Summoned) ∧
        run.Offers (nextTask (run.state time).distance).Has time ∧
        ((run.state (time + 1)).distance < (run.state time).distance ∨
          (run.state (time + 1)).distance = (run.state time).distance ∧
            ¬run.Does (nextTask (run.state time).distance).Has time) := by
    rintro time ⟨going, summoned⟩ before
    obtain ⟨idle, unstopped⟩ := not_or.mp before
    have offers := offers_nextTask summoned idle
    rcases run.next time with ⟨nothing, same⟩ | ⟨act, acted, taken⟩
    · rw [same]
      exact ⟨⟨going, summoned⟩, offers, .inr ⟨rfl, run.not_does_of_none nothing⟩⟩
    · have nears := nears_of_step (coordinated_at run coordinated time).orderly going
        summoned idle taken fun stop => unstopped (stop ▸ acted)
      exact ⟨⟨nears.going, nears.summoned⟩, offers,
        nears.nearer.imp_right fun kept => ⟨kept.1, run.not_does_of_act acted kept.2⟩⟩
  obtain ⟨time, late, -, reached⟩ := run.eventually_of_rank
    (fun time => (run.state time).distance) (fun level => (nextTask level).Has)
    (fun level => fair (nextTask level)) progress ⟨going, summoned⟩
  exact ⟨time, late, reached⟩

theorem endsLoad_of_summoned (coordinated : initial.Coordinated) (fair : IsFair run)
    (takesUpFirst : TakesUpFirst run) {first : Nat}
    (going : (run.state first).reloader.stopping = false) (summoned : (run.state first).Summoned) :
    ∃ time, EndsLoadAt run time := by
  obtain ⟨reached, reloading⟩ :
      ∃ reached, (run.state reached).reloader.worker = some .reloading := by
    obtain ⟨time, -, reloading | stop⟩ := reloading_of_summoned coordinated fair going summoned
    · exact ⟨time, reloading⟩
    · obtain ⟨earlier, -, reloading⟩ := takesUpFirst time stop
      exact ⟨earlier, reloading⟩
  obtain ⟨time, -, ended⟩ := endsLoad_of_reloading coordinated fair reloading
  exact ⟨time, ended⟩

end

end Coordinator

end Audience
