import Audience.Proofs.Reload.Run

namespace Audience

/-! The accounts of a reloader.

`Accounted` reads the counts, the state of the cache and the generations off the loads that a run
has begun and ended.  A load is under way from the step that begins it to the step that ends it;
no other step touches the accounts, whoever takes it and however many stand in line.
-/

namespace Reloader

/-- Whose load is under way. -/
def loading? (reloader : Reloader) : Option Party :=
  if reloader.load.isSome then reloader.turn else none

/-- Who begins a load with a step. -/
def beginner? (reloader : Reloader) : Step → Option Party
  | .begin => reloader.turn
  | _ => none

/-- Whose load a step ends. -/
def finisher? (reloader : Reloader) : Step → Option Party
  | .finish => reloader.turn
  | _ => none

/-- What a step returns to the party whose load it ends with success: the snapshot that it has
just published. -/
def returned? (reloader : Reloader) (step : Step) : Option Snapshot :=
  match reloader.ending? step with
  | some (.ok _) => (reloader.step step).bind fun after => after.cache.current
  | _ => none

/-- The accounts of a reloader agree with the loads of the run that led to it. -/
structure Accounted (history : List (Reloader × Step)) (reloader : Reloader) : Prop where
  /-- Each load ends before the next begins, so at most one has begun and not ended. -/
  serial : seen beginner? history = seen finisher? history ++ reloader.loading?.toList
  loads : reloader.loads = (seen beginner? history).length
  completed : reloader.completed = ((seen ending? history).filterMap Except.toOption).length
  ended : reloader.completed + reloader.failed = (seen ending? history).length
  balance : reloader.loads =
    reloader.completed + reloader.failed + if reloader.load.isSome then 1 else 0
  generation : reloader.cache.status.generation = reloader.completed
  loading : reloader.cache.status.state = .loading ↔
    reloader.load.isSome = true ∨ ∃ cause, (seen ending? history).getLast? = some (.error cause)
  ready : reloader.cache.status.state = .ready ↔
    reloader.load = none ∧ ∃ catalog, (seen ending? history).getLast? = some (.ok catalog)
  uninitialized : reloader.cache.status.state = .uninitialized ↔ seen beginner? history = []
  /-- Successful loads return the generations from one on, in the order in which they end. -/
  returned : (seen returned? history).map Snapshot.generation =
    List.range' 1 reloader.completed
  /-- The content is what was returned last. -/
  current : reloader.cache.current = (seen returned? history).getLast?

variable {before after : Reloader} {step : Step} {history : List (Reloader × Step)}

/-- What a step leaves alone that neither begins nor ends a load. -/
structure Untouched (before after : Reloader) : Prop where
  loads : after.loads = before.loads
  completed : after.completed = before.completed
  failed : after.failed = before.failed
  cache : after.cache = before.cache
  load : after.load.isSome = before.load.isSome
  loading : after.loading? = before.loading?

theorem Untouched.of_same (loads : after.loads = before.loads)
    (completed : after.completed = before.completed) (failed : after.failed = before.failed)
    (cache : after.cache = before.cache) (load : after.load.isSome = before.load.isSome)
    (line : after.line = before.line) : Untouched before after :=
  ⟨loads, completed, failed, cache, load, by rw [loading?, loading?, load, turn, turn, line]⟩

/-- Who gets in line behind others does not change whose load is under way. -/
theorem loading?_of_grown {party : Party} (orderly : before.Orderly)
    (line : after.line = before.line ++ [party]) (load : after.load = before.load) :
    after.loading? = before.loading? := by
  rw [loading?, loading?, load]
  split
  · next underWay =>
      rw [turn, turn, line]
      cases waiting : before.line with
      | nil => simp [orderly.loadHasTurn waiting] at underWay
      | cons first rest => rfl
  · rfl

theorem Noticed.untouched (noticed : Noticed before after) : Untouched before after := by
  cases noticed with
  | woke waiting => exact .of_same rfl rfl rfl rfl rfl rfl
  | kept busy => exact .of_same rfl rfl rfl rfl rfl rfl

theorem untouched_of_step (orderly : before.Orderly) (taken : before.step step = some after)
    (notBegin : step ≠ .begin) (notFinish : step ≠ .finish) : Untouched before after := by
  cases transition_of_step taken with
  | notified noticed => exact noticed.untouched
  | announced stored listening noticed =>
      have same := noticed.untouched
      exact ⟨same.loads, same.completed, same.failed, same.cache, same.load, same.loading⟩
  | requested => exact ⟨rfl, rfl, rfl, rfl, rfl, loading?_of_grown orderly rfl rfl⟩
  | foundKept looking kept => exact ⟨rfl, rfl, rfl, rfl, rfl, loading?_of_grown orderly rfl rfl⟩
  | took notified => exact ⟨rfl, rfl, rfl, rfl, rfl, loading?_of_grown orderly rfl rfl⟩
  | begun line free => exact absurd rfl notBegin
  | probed begun available => exact .of_same rfl rfl rfl rfl (by simp [begun]) rfl
  | unavailable begun unavailable => exact .of_same rfl rfl rfl rfl (by simp [begun]) rfl
  | read probed => exact .of_same rfl rfl rfl rfl (by simp [probed]) rfl
  | published line loaded => exact absurd rfl notFinish
  | failed line loaded => exact absurd rfl notFinish
  | _ => exact .of_same rfl rfl rfl rfl rfl rfl

theorem beginner?_of_ne_begin (reloader : Reloader) (other : step ≠ .begin) :
    reloader.beginner? step = none := by
  cases step with
  | begin => exact absurd rfl other
  | _ => rfl

theorem finisher?_of_ne_finish (reloader : Reloader) (other : step ≠ .finish) :
    reloader.finisher? step = none := by
  cases step with
  | finish => exact absurd rfl other
  | _ => rfl

theorem returned?_of_ne_finish (reloader : Reloader) (other : step ≠ .finish) :
    reloader.returned? step = none := by
  rw [returned?, ending?_of_ne_finish reloader other]

theorem returned?_of_ok {catalog : Catalog} (taken : before.step .finish = some after)
    (loaded : before.load = some (.loaded (.ok catalog))) :
    before.returned? .finish = after.cache.current := by
  simp [returned?, ending?, loaded, taken]

theorem returned?_of_error {cause : LoadError}
    (loaded : before.load = some (.loaded (.error cause))) : before.returned? .finish = none := by
  simp [returned?, ending?, loaded]

theorem exists_of_finish (taken : before.step .finish = some after) :
    ∃ party rest outcome, before.line = party :: rest ∧ before.load = some (.loaded outcome) ∧
      after = (before.conclude outcome).dismiss party := by
  simp only [Reloader.step] at taken
  split at taken
  · next party rest outcome line loaded =>
      cases taken
      exact ⟨party, rest, outcome, line, loaded, rfl⟩
  · cases taken

/-- Only a load that succeeds changes the content. -/
theorem current_of_unpublished (taken : before.step step = some after)
    (unpublished : ∀ catalog, before.ending? step ≠ some (.ok catalog)) :
    after.cache.current = before.cache.current := by
  by_cases finish : step = .finish
  · subst finish
    obtain ⟨party, rest, outcome, line, loaded, rfl⟩ := exists_of_finish taken
    cases outcome with
    | ok catalog => exact absurd (by simp [ending?, loaded]) (unpublished catalog)
    | error cause => rfl
  · exact current_of_unfinished taken finish

namespace Accounted

theorem ofSource (source : Source) : Accounted [] (Reloader.ofSource source) where
  serial := rfl
  loads := rfl
  completed := rfl
  ended := rfl
  balance := rfl
  generation := rfl
  loading := by simp [Reloader.ofSource, Cache.empty, LoadStatus.initial, seen]
  ready := by simp [Reloader.ofSource, Cache.empty, LoadStatus.initial, seen]
  uninitialized := by simp [Reloader.ofSource, Cache.empty, LoadStatus.initial, seen]
  returned := rfl
  current := rfl

theorem of_untouched (accounted : Accounted history before) (same : Untouched before after)
    (notBegin : step ≠ .begin) (notFinish : step ≠ .finish) :
    Accounted (history ++ [(before, step)]) after := by
  have beginners : seen beginner? (history ++ [(before, step)]) = seen beginner? history := by
    simp [beginner?_of_ne_begin before notBegin]
  have finishers : seen finisher? (history ++ [(before, step)]) = seen finisher? history := by
    simp [finisher?_of_ne_finish before notFinish]
  have ends : seen ending? (history ++ [(before, step)]) = seen ending? history := by
    simp [ending?_of_ne_finish before notFinish]
  have returns : seen returned? (history ++ [(before, step)]) = seen returned? history := by
    simp [returned?_of_ne_finish before notFinish]
  have free : after.load = none ↔ before.load = none := by
    rw [← Option.not_isSome_iff_eq_none, same.load, Option.not_isSome_iff_eq_none]
  exact
    { serial := by rw [beginners, finishers, same.loading]; exact accounted.serial
      loads := by rw [beginners, same.loads]; exact accounted.loads
      completed := by rw [ends, same.completed]; exact accounted.completed
      ended := by rw [ends, same.completed, same.failed]; exact accounted.ended
      balance := by
        rw [same.loads, same.completed, same.failed, same.load]
        exact accounted.balance
      generation := by rw [same.cache, same.completed]; exact accounted.generation
      loading := by rw [same.cache, same.load, ends]; exact accounted.loading
      ready := by rw [same.cache, free, ends]; exact accounted.ready
      uninitialized := by rw [same.cache, beginners]; exact accounted.uninitialized
      returned := by rw [returns, same.completed]; exact accounted.returned
      current := by rw [returns, same.cache]; exact accounted.current }

theorem of_begun {party : Party} {rest : List Party} (accounted : Accounted history before)
    (line : before.line = party :: rest) (free : before.load = none) :
    Accounted (history ++ [(before, .begin)])
      { before with
        load := some .begun, loads := before.loads + 1, cache := before.cache.beginLoad } := by
  have turn : before.turn = some party := by rw [turn, line, List.head?_cons]
  have serial := accounted.serial
  have balance := accounted.balance
  have loads := accounted.loads
  simp only [loading?, free, Option.isSome_none, Bool.false_eq_true, if_false, Option.toList_none,
    List.append_nil] at serial
  simp only [free, Option.isSome_none, Bool.false_eq_true, if_false, Nat.add_zero] at balance
  exact
    { serial := by
        have underWay : Reloader.turn
            { before with
              load := some .begun, loads := before.loads + 1, cache := before.cache.beginLoad } =
            some party := turn
        simp [beginner?, finisher?, loading?, turn, underWay, serial]
      loads := by simp [beginner?, turn, loads]
      completed := by simpa [ending?] using accounted.completed
      ended := by simpa [ending?] using accounted.ended
      balance := by simpa using balance
      generation := accounted.generation
      loading := by simp [Cache.beginLoad]
      ready := by simp [Cache.beginLoad]
      uninitialized := by simp [Cache.beginLoad, beginner?, turn]
      returned := by simpa [returned?, ending?] using accounted.returned
      current := by simpa [returned?, ending?] using accounted.current }

theorem of_finished (accounted : Accounted history before)
    (taken : before.step .finish = some after) :
    Accounted (history ++ [(before, .finish)]) after := by
  obtain ⟨party, rest, outcome, line, loaded, result⟩ := exists_of_finish taken
  -- The party that leaves the line is the one that began last.
  have serial := accounted.serial
  simp only [loading?, loaded, Option.isSome_some, if_true, turn, line, List.head?_cons,
    Option.toList_some] at serial
  have balance := accounted.balance
  simp only [loaded, Option.isSome_some, if_true] at balance
  have ended := accounted.ended
  have returned : before.returned? .finish =
      outcome.toOption.map (Snapshot.mk (before.cache.status.generation + 1)) := by
    cases outcome with
    | ok catalog =>
        rw [returned?_of_ok taken loaded, result]
        rfl
    | error cause => exact returned?_of_error loaded
  subst result
  exact
    { serial := by simp [beginner?, finisher?, loading?, dismiss, turn, line, serial]
      loads := by cases outcome <;> simpa [beginner?, dismiss, conclude] using accounted.loads
      completed := by
        cases outcome <;>
          simp [ending?, loaded, dismiss, conclude, accounted.completed, Except.toOption]
      ended := by
        cases outcome <;> simp only [dismiss, conclude, seen_snoc, ending?, loaded,
          Option.toList_some, List.length_append, List.length_singleton] <;> omega
      balance := by
        cases outcome <;>
          simp only [dismiss, conclude, Option.isSome_none, Bool.false_eq_true, if_false] <;> omega
      generation := by
        cases outcome <;>
          simp [dismiss, conclude, Cache.publish, Cache.recordFailure, accounted.generation]
      loading := by
        cases outcome <;>
          simp [dismiss, conclude, Cache.publish, Cache.recordFailure, ending?, loaded]
      ready := by
        cases outcome <;>
          simp [dismiss, conclude, Cache.publish, Cache.recordFailure, ending?, loaded]
      uninitialized := by
        cases outcome <;>
          simp [dismiss, conclude, Cache.publish, Cache.recordFailure, beginner?, serial]
      returned := by
        cases outcome with
        | ok catalog =>
            simp [returned, Except.toOption, dismiss, conclude, accounted.returned,
              accounted.generation, List.range'_1_concat, Nat.add_comm]
        | error cause =>
            simpa [returned, Except.toOption, dismiss, conclude] using accounted.returned
      current := by
        cases outcome with
        | ok catalog => simp [returned, Except.toOption, dismiss, conclude]
        | error cause =>
            simpa [returned, Except.toOption, dismiss, conclude] using accounted.current }

theorem of_step (accounted : Accounted history before) (orderly : before.Orderly)
    (taken : before.step step = some after) : Accounted (history ++ [(before, step)]) after := by
  by_cases begins : step = .begin
  · subst begins
    cases transition_of_step taken with
    | begun line free => exact accounted.of_begun line free
  by_cases finishes : step = .finish
  · subst finishes
    exact accounted.of_finished taken
  · exact accounted.of_untouched (untouched_of_step orderly taken begins finishes) begins finishes

/-- The content is of the last generation. -/
theorem generation_current (accounted : Accounted history before) :
    before.cache.current.map Snapshot.generation =
      if before.cache.status.generation = 0 then none
      else some before.cache.status.generation := by
  rw [accounted.current, ← List.getLast?_map, accounted.returned, List.getLast?_range',
    accounted.generation, Nat.add_sub_cancel_left]

end Accounted

theorem Run.accounted {source : Source} {final : Reloader}
    (run : Run (Reloader.ofSource source) history final) : final.Accounted history := by
  induction run with
  | nil => exact .ofSource source
  | snoc earlier taken ih => exact ih.of_step (Run.orderly earlier) taken

/-- However the worker and requests fall together and whatever their loads come to, the accounts
agree with the loads in every state that a run passes or ends in. -/
theorem accounted_throughout {source : Source} {final : Reloader}
    (run : Run (Reloader.ofSource source) history final) :
    final.Accounted history ∧
      ∀ earlier reached step later, history = earlier ++ (reached, step) :: later →
        reached.Accounted earlier := by
  refine ⟨run.accounted, ?_⟩
  intro earlier reached step later parts
  exact Run.accounted (run.passes parts).1

/-- Two requests arrive while the worker loads; the first of them fails, the second loads. -/
def requestsBehindWorker : List Step :=
  [.start, .look, .begin, .probe, .request 0, .request 1, .read, .finish, .setAvailable false,
    .begin, .probe, .finish, .setAvailable true, .begin, .probe]

theorem requestsBehindWorker_accounted :
    ∃ run, Trace.execute Reloader.step (Reloader.ofSource (.memory .empty true))
        requestsBehindWorker = some run ∧
      (run.2.loads = 3 ∧ run.2.completed = 1 ∧ run.2.failed = 1) ∧
      run.2.loading? = some (.request 1) ∧ run.2.Accounted run.1 := by
  obtain ⟨run, executed, counts, underWay⟩ :
      ∃ run, Trace.execute Reloader.step (Reloader.ofSource (.memory .empty true))
          requestsBehindWorker = some run ∧
        (run.2.loads = 3 ∧ run.2.completed = 1 ∧ run.2.failed = 1) ∧
        run.2.loading? = some (.request 1) :=
    ⟨_, rfl, ⟨rfl, rfl, rfl⟩, rfl⟩
  exact ⟨run, executed, counts, underWay, (accounted_throughout (Trace.of_execute executed)).1⟩

end Reloader

end Audience
