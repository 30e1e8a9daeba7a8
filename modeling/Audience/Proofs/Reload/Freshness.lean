import Audience.Proofs.Reload.Run

namespace Audience

/-! No write to a source in memory is lost.

A write is pending from its storing on until the worker has read the source in a load of its own
that began behind it.  While no write is pending, what a load has found and what was published last
are what the source holds.
-/

namespace Reloader

/-- The worker has its turn, and its load has read the source. -/
def WorkerHasRead (reloader : Reloader) : Prop :=
  reloader.turn = some .worker ∧ ∃ outcome, reloader.load = some (.loaded outcome)

/-- The worker has yet to read the source on account of a write or a notice. -/
inductive Pending (reloader : Reloader) : Prop where
  | unannounced (stored : 0 < reloader.unannounced)
  | kept (kept : reloader.permit = true)
  | delivered (notified : reloader.worker = some .notified)
  | queued (reloading : reloader.worker = some .reloading) (unread : ¬reloader.WorkerHasRead)

/-- What is known of the content found and published, given what the loads have come to. -/
structure Fresh (reloader : Reloader) (ended : List (Except LoadError Catalog)) : Prop where
  inMemory : ∃ catalog available, reloader.source = .memory catalog available
  published : ∀ catalog, ended.getLast? = some (.ok catalog) →
    ∃ snapshot, reloader.cache.current = some snapshot ∧ snapshot.catalog = catalog
  found : reloader.listening = true → ¬reloader.Pending →
    ∀ catalog, reloader.load = some (.loaded (.ok catalog)) → reloader.source.content = .ok catalog
  settled : reloader.listening = true → ¬reloader.Pending → reloader.worker ≠ some .reloading →
    ∀ catalog, ended.getLast? = some (.ok catalog) → reloader.source.content = .ok catalog

variable {before after : Reloader} {step : Step} {ended : List (Except LoadError Catalog)}

/-- Who gets in line behind others does not change whose turn it is. -/
theorem WorkerHasRead.of_requested {party : Party} (hasRead : after.WorkerHasRead)
    (orderly : before.Orderly) (line : after.line = before.line ++ [party])
    (load : after.load = before.load) : before.WorkerHasRead := by
  obtain ⟨turn, outcome, loaded⟩ := hasRead
  rw [load] at loaded
  rw [Reloader.turn, line] at turn
  cases waiting : before.line with
  | nil => simp [orderly.loadHasTurn waiting] at loaded
  | cons first rest =>
      rw [waiting] at turn
      exact ⟨by rw [Reloader.turn, waiting]; exact turn, outcome, loaded⟩

theorem Pending.of_noticed (noticed : Noticed before after) : after.Pending := by
  cases noticed with
  | woke waiting => exact .delivered rfl
  | kept busy => exact .kept rfl

/-- A worker that has just got in line has read nothing. -/
theorem Pending.of_queued (orderly : before.Orderly) (idle : before.worker ≠ some .reloading)
    (line : after.line = before.line ++ [.worker]) (worker : after.worker = some .reloading)
    (load : after.load = before.load) : after.Pending := by
  refine .queued worker fun hasRead => idle ?_
  obtain ⟨turn, _⟩ := hasRead.of_requested orderly line load
  exact orderly.workerInLine.mp (List.mem_of_head? turn)

/-- What is on its way stays so while the worker neither moves nor reads. -/
theorem Pending.keep (pending : before.Pending)
    (unannounced : after.unannounced = before.unannounced)
    (permit : before.permit = true → after.permit = true)
    (notified : before.worker = some .notified →
      after.worker = some .notified ∨ after.permit = true)
    (reloading : before.worker = some .reloading → after.worker = some .reloading)
    (unread : after.WorkerHasRead → before.WorkerHasRead) : after.Pending := by
  cases pending with
  | unannounced stored => exact .unannounced (by rw [unannounced]; exact stored)
  | kept kept => exact .kept (permit kept)
  | delivered delivered =>
      rcases notified delivered with still | kept
      · exact .delivered still
      · exact .kept kept
  | queued inLine early => exact .queued (reloading inLine) fun hasRead => early (unread hasRead)

/-- A load that ends takes with it nothing that is on its way. -/
theorem Pending.of_dismissed {party : Party} {outcome : Except LoadError Catalog}
    (pending : before.Pending) (orderly : before.Orderly) (line : before.line = party :: after.line)
    (loaded : before.load = some (.loaded outcome))
    (unannounced : after.unannounced = before.unannounced) (permit : after.permit = before.permit)
    (worker : after.worker = if party = .worker then some .looking else before.worker)
    (idle : after.worker ≠ some .reloading) : after.Pending := by
  cases pending with
  | unannounced stored => exact .unannounced (by rw [unannounced]; exact stored)
  | kept kept => exact .kept (by rw [permit]; exact kept)
  | delivered notified =>
      refine .delivered ?_
      have request : party ≠ .worker := by
        intro isWorker
        have reloading := orderly.workerInLine.mp (by simp [line, isWorker])
        simp [notified] at reloading
      rw [worker, if_neg request, notified]
  | queued reloading unread =>
      -- The load that ended is the worker's, which had read, or it left the worker in line.
      by_cases isWorker : party = .worker
      · exact absurd ⟨by rw [turn, line, isWorker]; rfl, outcome, loaded⟩ unread
      · exact absurd (by rw [worker, if_neg isWorker, reloading]) idle

theorem Pending.of_finished {party : Party} {outcome : Except LoadError Catalog}
    (pending : before.Pending) (orderly : before.Orderly) (line : before.line = party :: after.line)
    (loaded : before.load = some (.loaded outcome)) (load : after.load = none)
    (unannounced : after.unannounced = before.unannounced) (permit : after.permit = before.permit)
    (worker : after.worker = if party = .worker then some .looking else before.worker) :
    after.Pending := by
  by_cases queued : after.worker = some .reloading
  · exact .queued queued fun hasRead => by simp [WorkerHasRead, load] at hasRead
  · exact pending.of_dismissed orderly line loaded unannounced permit worker queued

/-- What is on its way stays so until something is read or found to be unavailable. -/
theorem Pending.of_step (pending : before.Pending) (orderly : before.Orderly)
    (taken : before.step step = some after) (heard : step = .announce → before.listening = true)
    (available : step = .probe → before.source.isAvailable = true) (unread : step ≠ .read) :
    after.Pending := by
  cases transition_of_step taken with
  | alreadyStarted going running => exact pending
  | started going idle => exact .kept rfl
  | stopped going => exact pending.keep rfl id .inl id id
  | notified noticed => exact .of_noticed noticed
  | put stored => exact .unannounced (Nat.succ_pos _)
  | replaced stored => exact .unannounced (Nat.succ_pos _)
  | announced stored listening noticed => exact .of_noticed noticed
  | unheard stored deaf => simp [heard rfl] at deaf
  | switched switched => exact pending.keep rfl id .inl id id
  | diskChanged changed => exact pending.keep rfl id .inl id id
  | requested =>
      exact pending.keep rfl id .inl id fun hasRead => hasRead.of_requested orderly rfl rfl
  | foundKept looking kept => exact .of_queued orderly (by simp [looking]) rfl rfl rfl
  | foundNothing looking nothing =>
      exact pending.keep rfl id (by simp [looking]) (by simp [looking]) id
  | took notified => exact .of_queued orderly (by simp [notified]) rfl rfl rfl
  | quit stopping idle =>
      have notified : before.worker ≠ some .notified := by
        rcases idle with looking | waiting <;> simp [*]
      have reloading : before.worker ≠ some .reloading := by
        rcases idle with looking | waiting <;> simp [*]
      exact pending.keep rfl id (absurd · notified) (absurd · reloading) id
  | quitNotified stopping notified => exact .kept rfl
  | begun line free =>
      exact pending.keep rfl id .inl id fun hasRead => by simp [WorkerHasRead] at hasRead
  | probed begun available =>
      exact pending.keep rfl id .inl id fun hasRead => by simp [WorkerHasRead] at hasRead
  | unavailable begun unavailable => simp [available rfl] at unavailable
  | read probed => exact absurd rfl unread
  | published line loaded => exact pending.of_finished orderly line loaded rfl rfl rfl rfl
  | failed line loaded => exact pending.of_finished orderly line loaded rfl rfl rfl rfl

namespace Fresh

theorem ofSource (catalog : Catalog) (available : Bool) :
    (Reloader.ofSource (.memory catalog available)).Fresh [] where
  inMemory := ⟨catalog, available, rfl⟩
  published := by simp
  found := by simp [Reloader.ofSource]
  settled := by simp [Reloader.ofSource]

/-- Nothing is claimed of the source while a change is on its way. -/
theorem of_pending (fresh : before.Fresh ended)
    (inMemory : ∃ catalog available, after.source = .memory catalog available)
    (cache : after.cache.current = before.cache.current)
    (pending : after.listening = true → after.Pending) : after.Fresh ended where
  inMemory := inMemory
  published := by rw [cache]; exact fresh.published
  found := fun listening settled => absurd (pending listening) settled
  settled := fun listening settled => absurd (pending listening) settled

/-- A step that keeps what is on its way, the source and what was found in it. -/
theorem keep (fresh : before.Fresh ended)
    (inMemory : ∃ catalog available, after.source = .memory catalog available)
    (content : after.source.content = before.source.content)
    (cache : after.cache.current = before.cache.current)
    (listening : after.listening = before.listening)
    (pending : before.Pending → after.Pending)
    (load : ∀ catalog, after.load = some (.loaded (.ok catalog)) →
      before.load = some (.loaded (.ok catalog)))
    (worker : before.worker = some .reloading → after.worker = some .reloading) :
    after.Fresh ended where
  inMemory := inMemory
  published := by rw [cache]; exact fresh.published
  found := by
    intro heard settled catalog loaded
    rw [content]
    exact fresh.found (listening ▸ heard) (fun early => settled (pending early)) catalog
      (load catalog loaded)
  settled := by
    intro heard settled idle catalog last
    rw [content]
    exact fresh.settled (listening ▸ heard) (fun early => settled (pending early))
      (fun reloading => idle (worker reloading)) catalog last

/-- A load finds either an error or what the source holds. -/
theorem of_outcome (fresh : before.Fresh ended) {outcome : Except LoadError Catalog}
    (found : ∀ catalog, outcome = .ok catalog → before.source.content = .ok catalog) :
    Fresh { before with load := some (.loaded outcome) } ended where
  inMemory := fresh.inMemory
  published := fresh.published
  found := by
    intro heard settled catalog loaded
    cases loaded
    exact found catalog rfl
  settled := by
    intro heard settled idle
    refine fresh.settled heard (fun pending => settled ?_) idle
    cases pending with
    | unannounced stored => exact .unannounced stored
    | kept kept => exact .kept kept
    | delivered notified => exact .delivered notified
    | queued reloading early => exact absurd reloading idle

theorem of_published {party : Party} {rest : List Party} {catalog : Catalog} {completed : Nat}
    (fresh : before.Fresh ended) (orderly : before.Orderly) (line : before.line = party :: rest)
    (loaded : before.load = some (.loaded (.ok catalog))) :
    Fresh
      { before with
        line := rest, load := none
        worker := if party = .worker then some .looking else before.worker
        cache := before.cache.publish catalog, completed }
      (ended ++ [.ok catalog]) where
  inMemory := fresh.inMemory
  published := by
    intro last same
    rw [List.getLast?_concat] at same
    cases same
    exact ⟨_, rfl, rfl⟩
  found := by
    intro _ _ other absent
    cases absent
  settled := by
    intro heard settled idle last same
    rw [List.getLast?_concat] at same
    cases same
    -- What the load found was the source's content unless a write was on its way, and then the
    -- write would still be.
    refine fresh.found heard (fun pending => settled ?_) catalog loaded
    exact pending.of_dismissed orderly line loaded rfl rfl rfl idle

theorem of_failed {party : Party} {rest : List Party} {cause : LoadError} {cache : Cache}
    {failed : Nat} (fresh : before.Fresh ended) :
    Fresh
      { before with
        line := rest, load := none
        worker := if party = .worker then some .looking else before.worker
        cache, failed }
      (ended ++ [.error cause]) where
  inMemory := fresh.inMemory
  published := by simp
  found := by simp
  settled := by simp

theorem of_unfinished (fresh : before.Fresh ended) (orderly : before.Orderly)
    (taken : before.step step = some after) (other : step ≠ .finish) : after.Fresh ended := by
  obtain ⟨catalog, available, memory⟩ := fresh.inMemory
  have still := fun pending => Pending.of_step pending orderly taken
  cases transition_of_step taken with
  | alreadyStarted going running => exact fresh
  | started going idle => exact fresh.of_pending fresh.inMemory rfl fun _ => .kept rfl
  | stopped going =>
      exact fresh.keep fresh.inMemory rfl rfl rfl
        (fun pending => still pending (by simp) (by simp) (by simp)) (fun _ => id) id
  | notified noticed =>
      exact fresh.of_pending (by rw [noticed.source]; exact fresh.inMemory) (by rw [noticed.cache])
        fun _ => .of_noticed noticed
  | put stored =>
      simp only [memory, Source.put, Option.some.injEq] at stored
      exact fresh.of_pending ⟨_, _, stored.symm⟩ rfl fun _ => .unannounced (Nat.succ_pos _)
  | replaced stored =>
      simp only [memory, Source.replace, Option.some.injEq] at stored
      exact fresh.of_pending ⟨_, _, stored.symm⟩ rfl fun _ => .unannounced (Nat.succ_pos _)
  | announced stored listening noticed =>
      exact fresh.of_pending (by rw [noticed.source]; exact fresh.inMemory) (by rw [noticed.cache])
        fun _ => .of_noticed noticed
  | unheard stored deaf =>
      exact fresh.of_pending fresh.inMemory rfl fun heard => by simp [deaf] at heard
  | switched switched =>
      simp only [memory, Source.setAvailable, Option.some.injEq] at switched
      exact fresh.keep ⟨_, _, switched.symm⟩ (by rw [← switched, memory]; rfl) rfl rfl
        (fun pending => still pending (by simp) (by simp) (by simp)) (fun _ => id) id
  | diskChanged changed => simp [memory, Source.setDisk] at changed
  | requested =>
      exact fresh.keep fresh.inMemory rfl rfl rfl
        (fun pending => still pending (by simp) (by simp) (by simp)) (fun _ => id) id
  | foundKept looking kept =>
      exact fresh.of_pending fresh.inMemory rfl fun _ =>
        .of_queued orderly (by simp [looking]) rfl rfl rfl
  | foundNothing looking nothing =>
      exact fresh.keep fresh.inMemory rfl rfl rfl
        (fun pending => still pending (by simp) (by simp) (by simp)) (fun _ => id)
        (by simp [looking])
  | took notified =>
      exact fresh.of_pending fresh.inMemory rfl fun _ =>
        .of_queued orderly (by simp [notified]) rfl rfl rfl
  | quit stopping idle =>
      have reloading : before.worker ≠ some .reloading := by
        rcases idle with looking | waiting <;> simp [*]
      exact fresh.keep fresh.inMemory rfl rfl rfl
        (fun pending => still pending (by simp) (by simp) (by simp)) (fun _ => id)
        (absurd · reloading)
  | quitNotified stopping notified =>
      exact fresh.of_pending fresh.inMemory rfl fun _ => .kept rfl
  | begun line free =>
      exact fresh.keep fresh.inMemory rfl rfl rfl
        (fun pending => still pending (by simp) (by simp) (by simp)) (by simp) id
  | probed begun available =>
      exact fresh.keep fresh.inMemory rfl rfl rfl
        (fun pending => still pending (by simp) (fun _ => available) (by simp)) (by simp) id
  | unavailable begun unavailable => exact fresh.of_outcome (by simp)
  | read probed => exact fresh.of_outcome fun _ found => found
  | published line loaded => exact absurd rfl other
  | failed line loaded => exact absurd rfl other

theorem of_step (fresh : before.Fresh ended) (orderly : before.Orderly)
    (taken : before.step step = some after) :
    after.Fresh (ended ++ (before.ending? step).toList) := by
  by_cases finish : step = .finish
  · subst finish
    cases transition_of_step taken with
    | published line loaded =>
        simpa [ending?, loaded] using fresh.of_published orderly line loaded
    | failed line loaded => simpa [ending?, loaded] using fresh.of_failed
  · rw [ending?_of_ne_finish before finish, Option.toList_none, List.append_nil]
    exact fresh.of_unfinished orderly taken finish

end Fresh

theorem Run.fresh {catalog : Catalog} {available : Bool} {history : List (Reloader × Step)}
    {final : Reloader} (run : Run (Reloader.ofSource (.memory catalog available)) history final) :
    final.Fresh (seen ending? history) := by
  induction run with
  | nil => exact .ofSource catalog available
  | @snoc history before after step earlier taken ih =>
      rw [seen_snoc]
      exact ih.of_step (Run.orderly earlier) taken

/-- The worker is there and has nothing to do, and no notice is on its way to it. -/
structure Quiet (reloader : Reloader) : Prop where
  running : reloader.worker ≠ none
  idle : reloader.worker ≠ some .reloading
  untold : reloader.worker ≠ some .notified
  nothingKept : reloader.permit = false
  allAnnounced : reloader.unannounced = 0

theorem Quiet.not_pending {reloader : Reloader} (quiet : reloader.Quiet) : ¬reloader.Pending := by
  intro pending
  cases pending with
  | unannounced stored => simp [quiet.allAnnounced] at stored
  | kept kept => simp [quiet.nothingKept] at kept
  | delivered notified => exact quiet.untold notified
  | queued reloading => exact quiet.idle reloading

theorem Fresh.published_source {final : Reloader} {loaded : Catalog} (fresh : final.Fresh ended)
    (orderly : final.Orderly) (quiet : final.Quiet) (last : ended.getLast? = some (.ok loaded)) :
    ∃ snapshot, final.cache.current = some snapshot ∧
      final.source.content = .ok snapshot.catalog := by
  have listening := orderly.workerListens quiet.running
  obtain ⟨snapshot, current, same⟩ := fresh.published loaded last
  refine ⟨snapshot, current, ?_⟩
  rw [same]
  exact fresh.settled listening quiet.not_pending quiet.idle loaded last

/-- However writes, notices and loads fall together, a quiet reloader whose last load succeeded has
published what the source holds. -/
theorem published_of_quiet {catalog loaded : Catalog} {available : Bool}
    {history : List (Reloader × Step)} {final : Reloader}
    (run : Run (Reloader.ofSource (.memory catalog available)) history final)
    (quiet : final.Quiet) (last : (seen ending? history).getLast? = some (.ok loaded)) :
    ∃ snapshot, final.cache.current = some snapshot ∧
      final.source.content = .ok snapshot.catalog :=
  run.fresh.published_source run.orderly quiet last

/-- A write lands in a load that has already read the source. -/
def writeBehindRead : List Step :=
  [.start, .look, .begin, .probe, .read, .put "1" .empty, .announce, .finish,
    .look, .begin, .probe, .read, .finish, .look]

theorem writeBehindRead_published :
    ∃ run, Trace.execute Reloader.step (Reloader.ofSource (.memory .empty true))
        writeBehindRead = some run ∧
      run.2.Quiet ∧
      (seen ending? run.1).getLast? = some (.ok (SortedMap.empty.insert "1" .empty)) ∧
      ∃ snapshot, run.2.cache.current = some snapshot ∧
        run.2.source.content = .ok snapshot.catalog := by
  obtain ⟨run, executed, quiet, last⟩ :
      ∃ run, Trace.execute Reloader.step (Reloader.ofSource (.memory .empty true))
          writeBehindRead = some run ∧
        run.2.Quiet ∧
        (seen ending? run.1).getLast? = some (.ok (SortedMap.empty.insert "1" .empty)) :=
    ⟨_, rfl, ⟨by decide, by decide, by decide, rfl, rfl⟩, rfl⟩
  exact ⟨run, executed, quiet, last, published_of_quiet (Trace.of_execute executed) quiet last⟩

end Reloader

end Audience
