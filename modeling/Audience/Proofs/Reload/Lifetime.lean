import Audience.Proofs.Reload.Progress
import Audience.Proofs.Reload.Refinement

namespace Audience

/-! The lifetime of a worker.

A worker lives from the call that sets it up to the end of a call that shuts it down.  It does not
leave a reload half-way, nothing but requests loads while it is gone, and a new one loads again.
-/

namespace Reloader

variable {reloader : Reloader} {step : Step}

theorem turn_of_beginner? {party : Party} (begins : reloader.beginner? step = some party) :
    reloader.turn = some party := by
  cases step with
  | begin => exact begins
  | _ => cases begins

theorem Orderly.exists_turn (orderly : reloader.Orderly) (underWay : reloader.load.isSome = true) :
    ∃ party, reloader.turn = some party := by
  rcases waiting : reloader.line with _ | ⟨party, rest⟩
  · simp [orderly.loadHasTurn waiting] at underWay
  · exact ⟨party, by rw [turn, waiting, List.head?_cons]⟩

end Reloader

namespace Coordinator

/-- Whether a call is to set up a worker that is there. -/
def isRepeated : Coordinator × Step → Bool
  | (coordinator, .start) => coordinator.reloader.worker.isSome
  | _ => false

/-- What a call that has shut down a worker leaves behind when it returns. -/
structure Gone (earlier : List (Coordinator × Step)) (coordinator : Coordinator) : Prop where
  worker : coordinator.reloader.worker = none
  line : Party.worker ∉ coordinator.reloader.line
  /-- The worker has brought to its end whatever it has taken up. -/
  reloads : ∃ outcomes : List (Except LoadError Catalog),
    seen Reloader.mark? (reloads earlier) = outcomes.flatMap Reloader.Mark.reload
  concluded : ∀ before act outcome, (before, act) ∈ earlier →
    before.reloader.mark? act.inner = some (.ended outcome) → ∃ after, EndsLoad before act after
  /-- A load that is under way is one of a request; otherwise the last one has failed. -/
  loading : coordinator.reloader.cache.status.state = .loading →
    (∃ ticket, coordinator.reloader.loading? = some (.request ticket)) ∨
      ∃ cause, (seen Reloader.ending? (Coordinator.reloads earlier)).getLast? = some (.error cause)

/-- The calls of a run around the worker do what they are for. -/
structure Lifetime (source : Source) (history : List (Coordinator × Step)) (final : Coordinator) :
    Prop where
  /-- While there is a worker, calls to set one up could as well be left out. -/
  repeated : Run source (history.filter fun entry => !isRepeated entry) final
  gone : ∀ earlier coordinator later, history = earlier ++ (coordinator, .leave) :: later →
    Gone earlier coordinator
  /-- From there to the next start only requests load. -/
  quiet : ∀ earlier coordinator between later,
    history = earlier ++ (coordinator, .leave) :: (between ++ later) →
    (∀ entry ∈ between, entry.2 ≠ .start) →
      (∀ entry ∈ between, entry.1.reloader.worker = none) ∧
      ∀ party ∈ seen Reloader.beginner? (reloads between), ∃ ticket, party = .request ticket
  /-- A worker that has been set up ends a load, unless it is told to stop before it has taken up
  its notice. -/
  started : ∀ earlier coordinator, history = earlier ++ [(coordinator, .start)] →
    coordinator.reloader.worker = none →
      ∀ run : Endless step final, IsFair run → TakesUpFirst run → ∃ time, EndsLoadAt run time

variable {source : Source} {history : List (Coordinator × Step)} {before after final : Coordinator}
  {act : Step}

theorem eq_of_isRepeated (repeated : isRepeated (before, act) = true)
    (taken : before.step act = some after) : after = before := by
  cases transition_of_step taken with
  | alreadyStarted free running => rfl
  | spawned free idle => simp [isRepeated, idle] at repeated
  | _ => cases repeated

theorem run_filter_isRepeated (run : Run source history final) :
    Run source (history.filter fun entry => !isRepeated entry) final := by
  induction run with
  | nil => exact .nil
  | @snoc history before after act earlier taken ih =>
      rw [List.filter_append]
      cases repeated : isRepeated (before, act) with
      | true =>
          rw [eq_of_isRepeated repeated taken]
          simpa [repeated] using ih
      | false => simpa [repeated] using Trace.snoc ih taken

theorem gone_of_run (run : Run source history before) (left : before.step .leave = some after) :
    Gone history before := by
  have orderly := (coordinated_of_run run).orderly
  have accounted := accounted_of_run run
  cases transition_of_step left with
  | left stopping gone =>
      have idle : before.reloader.worker ≠ some .reloading := by simp [gone]
      obtain ⟨outcomes, marks⟩ := marks_of_run run
      rw [Reloader.unfinished_of_ne idle, List.append_nil] at marks
      refine ⟨gone, orderly.workerInLine.not.mpr idle, ⟨outcomes, marks⟩, ?_, ?_⟩
      · intro state act outcome member ended
        obtain ⟨next, taken⟩ := run.taken_of_mem member
        exact ⟨next, endsLoad_of_ended ended taken⟩
      · intro loading
        refine (accounted.loading.mp loading).imp_left fun underWay => ?_
        obtain ⟨party, turn⟩ := orderly.exists_turn underWay
        cases party with
        | worker => exact absurd (orderly.reloading turn) idle
        | request ticket => exact ⟨ticket, by rw [Reloader.loading?, if_pos underWay, turn]⟩

theorem gone_of_step (coordinated : before.Coordinated) (gone : before.reloader.worker = none)
    (taken : before.step act = some after) (other : act ≠ .start) :
    after.reloader.worker = none := by
  cases transition_of_step taken with
  | alreadyStarted free running => exact gone
  | spawned free idle => exact absurd rfl other
  | greeted starting noticed => exact absurd gone (coordinated.starting starting)
  | toldToStop free going => exact gone
  | left stopping gone => exact gone
  | @went inner after noCall moved =>
      by_cases quits : inner = .quit
      · subst quits
        exact (Reloader.step_quit moved).2.1
      · exact (Reloader.worker_of_step coordinated.orderly moved noCall quits).2.mpr gone

theorem quiet_of_run {initial : Coordinator} (coordinated : initial.Coordinated)
    (gone : initial.reloader.worker = none) (run : Trace step initial history final)
    (unstarted : ∀ entry ∈ history, entry.2 ≠ .start) :
    (final.Coordinated ∧ final.reloader.worker = none) ∧
      (∀ entry ∈ history, entry.1.reloader.worker = none) ∧
      ∀ party ∈ seen Reloader.beginner? (reloads history), ∃ ticket, party = .request ticket := by
  induction run with
  | nil => exact ⟨⟨coordinated, gone⟩, by simp, by simp [seen, reloads]⟩
  | @snoc history before after act earlier taken ih =>
      obtain ⟨others, other⟩ := List.forall_mem_append.mp unstarted
      obtain ⟨⟨coordinated, gone⟩, states, beginners⟩ := ih others
      have stillGone := gone_of_step coordinated gone taken (other _ List.mem_cons_self)
      refine ⟨⟨coordinated.of_step taken, stillGone⟩,
        List.forall_mem_append.mpr ⟨states, by simpa using gone⟩, fun party begins => ?_⟩
      rw [reloads_snoc, seen_snoc, List.mem_append] at begins
      rcases begins with old | new
      · exact beginners party old
      · cases party with
        | request ticket => exact ⟨ticket, rfl⟩
        | worker =>
            have turn := Reloader.turn_of_beginner? (by simpa using new)
            simp [coordinated.orderly.reloading turn] at gone

theorem endsLoad_of_start (run : Run source history before) (idle : before.reloader.worker = none)
    (taken : before.step .start = some after) (later : Endless step after) (fair : IsFair later)
    (takesUpFirst : TakesUpFirst later) : ∃ time, EndsLoadAt later time := by
  have coordinated := coordinated_of_run run
  cases transition_of_step taken with
  | alreadyStarted free running => exact absurd idle running
  | spawned free idle =>
      have going : before.reloader.stopping = false := by
        simpa [free] using coordinated.stopping
      have summoned : (later.state 0).Summoned := by
        rw [later.initially]
        simp [Summoned, Reloader.spawn]
      have still : (later.state 0).reloader.stopping = false := by
        rw [later.initially]
        exact going
      exact endsLoad_of_summoned (coordinated.of_step taken) fair takesUpFirst still summoned

/-- Whatever calls, requests, notices and writes a run is made of, the worker lives from a start to
the end of a shutdown. -/
theorem lifetime_of_run (run : Run source history final) : Lifetime source history final where
  repeated := run_filter_isRepeated run
  gone := by
    intro earlier coordinator later parts
    obtain ⟨first, next, taken, -⟩ := run.passes parts
    exact gone_of_run first taken
  quiet := by
    intro earlier coordinator between later parts unstarted
    obtain ⟨first, next, taken, rest⟩ := run.passes parts
    obtain ⟨last, betweenRun, -⟩ := rest.split rfl
    have coordinated := (coordinated_of_run first).of_step taken
    cases transition_of_step taken with
    | left stopping gone => exact (quiet_of_run coordinated gone betweenRun unstarted).2
  started := by
    intro earlier coordinator parts idle later fair takesUpFirst
    obtain ⟨first, next, taken, rest⟩ := run.passes parts
    cases rest.eq_of_nil rfl
    exact endsLoad_of_start first idle taken later fair takesUpFirst

/-- A worker is set up twice and told to stop during its load, notices and a request come, some of
them while it is gone, and a new one is set up. -/
def restart : List Step :=
  [.start, .go .look, .greet, .start, .go .take, .go .begin, .shutDown, .go .probe, .go .notify,
    .go .read, .go .finish, .go .quit, .leave, .go .notify, .go (.request 0), .go .begin, .start]

def restarted : List Step :=
  [.go .probe, .go .read, .go .finish, .greet, .go .look, .go .begin, .go .probe, .go .read,
    .go .finish, .go .look]

theorem restart_lives :
    ∃ run, Trace.execute step (ofSource (.memory .empty true)) restart = some run ∧
      run.2.reloader.loading? = some (.request 0) ∧ run.2.call = some .starting ∧
      Lifetime (.memory .empty true) run.1 run.2 ∧
      ∃ later : Endless step run.2, IsFair later ∧ TakesUpFirst later := by
  obtain ⟨run, executed, underWay, starting, next, continued, acts, rest⟩ :
      ∃ run, Trace.execute step (ofSource (.memory .empty true)) restart = some run ∧
        run.2.reloader.loading? = some (.request 0) ∧ run.2.call = some .starting ∧
        ∃ next, Trace.execute step run.2 restarted = some next ∧
          next.1.map Prod.snd = restarted ∧ next.2.AtRest :=
    ⟨_, rfl, rfl, rfl, _, rfl, rfl, rfl, rfl, rfl, .inl rfl⟩
  obtain ⟨later, happens, fair⟩ := exists_isFair (Trace.of_execute continued) rest
  have unstopped : TakesUpFirst later := fun time stop => by
    have stops : Step.shutDown ∈ restarted := acts ▸ happens time _ stop
    simp [restarted] at stops
  exact ⟨run, executed, underWay, starting, lifetime_of_run (Trace.of_execute executed), later,
    fair, unstopped⟩

/-- A worker loads and is shut down, and a new one is set up. -/
def renewed : List Step :=
  [.start, .greet, .go .look, .go .begin, .go .probe, .go .read, .go .finish, .shutDown, .go .quit,
    .leave, .start]

/-- The new worker is told to stop with a notice that it has not looked for. -/
def stoppedEarly : List Step := [.greet, .shutDown, .go .quit, .leave]

theorem renewed_without_load :
    ∃ run, Trace.execute step (ofSource (.memory .empty true)) renewed = some run ∧
      (∃ earlier coordinator, run.1 = earlier ++ [(coordinator, .start)] ∧
        coordinator.reloader.worker = none) ∧
      ∃ later : Endless step run.2, IsFair later ∧
        ∀ time, later.act time ≠ some (.go .begin) ∧ ¬EndsLoadAt later time := by
  obtain ⟨run, executed, started, next, continued, acts, rest⟩ :
      ∃ run, Trace.execute step (ofSource (.memory .empty true)) renewed = some run ∧
        (∃ earlier coordinator, run.1 = earlier ++ [(coordinator, .start)] ∧
          coordinator.reloader.worker = none) ∧
        ∃ next, Trace.execute step run.2 stoppedEarly = some next ∧
          next.1.map Prod.snd = stoppedEarly ∧ next.2.AtRest :=
    ⟨_, rfl, ⟨[_, _, _, _, _, _, _, _, _, _], _, rfl, rfl⟩, _, rfl, rfl, rfl, rfl, rfl, .inr rfl⟩
  obtain ⟨later, happens, fair⟩ := exists_isFair (Trace.of_execute continued) rest
  have among : ∀ time act, later.act time = some act → act ∈ stoppedEarly :=
    fun time act acted => acts ▸ happens time act acted
  refine ⟨run, executed, started, later, fair, fun time => ⟨fun begins => ?_, fun ended => ?_⟩⟩
  · have begin := among time _ begins
    simp [stoppedEarly] at begin
  · obtain ⟨act, acted, ends⟩ := ended
    have finish := among time _ acted
    simp [ends.finish, stoppedEarly] at finish

end Coordinator

end Audience
