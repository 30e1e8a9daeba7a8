import Audience.Proofs.Visits.Attended
import Audience.Service.Timeline

namespace Audience

/-! Nobody is kept from content that is there.

Once there is content, everybody is a few steps of their own away from it, and nothing that comes
between these steps takes them further away.
-/

namespace Lobby

variable {source : Source} {questions : Nat → Question} {history later : List (Lobby × Step)}
  {lobby before after final : Lobby} {step : Step} {ticket : Nat} {visit : Visit}
  {snapshot : Snapshot}

/-- With content there, everybody gets it on their own while all others stand still. -/
theorem Run.completes (run : Run (ofSource source questions) history lobby)
    (content : lobby.current = some snapshot) (found : lobby.visits ticket = some visit)
    (stillThere : visit.isOpen = true) :
    ∃ own final, Run lobby own final ∧ (∀ entry ∈ own, entry.2 = .goOn ticket) ∧
      own.length = visit.remaining ∧ final.visits ticket = some (.served snapshot) := by
  -- On the steps that are left; each of them leads to another run with the same content.
  induction distance : visit.remaining generalizing history lobby visit with
  | zero => simp_all [Visit.remaining_eq_zero_iff]
  | succ distance ih =>
      obtain ⟨reached, service, taken, same, next⟩ :=
        step_goOn run.attended run.informed content found stillThere
      have nearer := Visit.remaining_of_next? content next
      have kept : (lobby.note ticket reached service).current = some snapshot := by
        rw [← content]
        exact congrArg (·.cache.current) same
      cases arrived : reached.isOpen with
      | true =>
          obtain ⟨own, final, later, allOwn, length, served⟩ :=
            ih (run.snoc taken) kept note_visits_self arrived (by omega)
          refine ⟨(lobby, .goOn ticket) :: own, final, later.cons taken, ?_, by simp [length], served⟩
          intro entry member
          rcases List.mem_cons.mp member with rfl | member
          · rfl
          · exact allOwn entry member
      | false =>
          have ready := Visit.eq_served_of_next? content next arrived
          subst ready
          refine ⟨[(lobby, .goOn ticket)], _, .snoc .nil taken, by simp, ?_, note_visits_self⟩
          have done : (Visit.served snapshot).remaining = 0 := rfl
          simp only [List.length_singleton]
          omega

/-- Content does not go away, and only newer content takes its place. -/
theorem Run.current_of_continued (run : Run (ofSource source questions) history lobby)
    (continued : Run lobby later final) (content : lobby.current = some snapshot) :
    ∃ newer, final.current = some newer ∧ snapshot.generation ≤ newer.generation := by
  have informed := run.informed
  have afterwards := Run.informed (run.append continued)
  have bound := informed.generation_le afterwards
  have here := informed.generation_of_current content
  cases held : final.current with
  | none =>
      have zero := afterwards.current_eq_none_iff.mp held
      have none := informed.current_eq_none_iff.mpr (by omega)
      rw [content] at none
      cases none
  | some newer =>
      have there := afterwards.generation_of_current held
      exact ⟨newer, rfl, by omega⟩

/-- How often somebody goes on in a history. -/
def ownSteps (ticket : Nat) (history : List (Lobby × Step)) : Nat :=
  history.countP fun (_, step) => step.isOf ticket

@[simp] theorem ownSteps_snoc :
    ownSteps ticket (history ++ [(lobby, step)]) =
      ownSteps ticket history + if step.isOf ticket then 1 else 0 := by
  simp [ownSteps, List.countP_append]

/-- Whatever comes next, nobody gets further away from content that is there. -/
theorem nearer_of_step (attended : Attended before) (informed : Informed history before)
    (content : before.current = some snapshot) (found : before.visits ticket = some visit)
    (taken : before.step step = some after) :
    ∃ reached, after.visits ticket = some reached ∧ (reached = .gone → visit = .gone) ∧
      reached.remaining + (if step.isOf ticket then 1 else 0) = visit.remaining := by
  cases moves_of_step taken ticket with
  | stayed other same => exact ⟨visit, same.trans found, id, by simp [other]⟩
  | came new now =>
      rw [found] at new
      cases new
  | wentOn own foundHere next now =>
      cases found.symm.trans foundHere
      have nearer := Visit.remaining_of_next? content next
      refine ⟨_, now, ?_, by simpa [own] using nearer⟩
      rintro rfl
      exact absurd next Visit.next?_ne_gone
  | left foundHere stillThere waits now =>
      exact absurd waits (next?_ne_none attended informed content foundHere stillThere)

theorem Run.nearer (run : Run (ofSource source questions) history lobby)
    (continued : Run lobby later final) (content : lobby.current = some snapshot)
    (found : lobby.visits ticket = some visit) :
    ∃ reached, final.visits ticket = some reached ∧ (reached = .gone → visit = .gone) ∧
      reached.remaining + ownSteps ticket later = visit.remaining := by
  induction continued with
  | nil => exact ⟨visit, found, id, rfl⟩
  | @snoc more before after step earlier taken ih =>
      obtain ⟨reached, foundThen, stays, distance⟩ := ih
      -- Content may have been replaced since, but it has not gone away.
      have whole := run.append earlier
      obtain ⟨newer, held, _⟩ := run.current_of_continued earlier content
      obtain ⟨next, foundNow, staysNow, distanceNow⟩ :=
        nearer_of_step (Run.attended whole) (Run.informed whole) held foundThen taken
      refine ⟨next, foundNow, fun left => stays (staysNow left), ?_⟩
      rw [ownSteps_snoc]
      omega

/-- Nobody gets older content than somebody has got before. -/
theorem Run.ascending (run : Run (ofSource source questions) history lobby) :
    (seen served? history).Pairwise (fun earlier later => earlier.generation ≤ later.generation) ∧
      ∀ snapshot ∈ seen served? history, snapshot.generation ≤ lobby.cache.status.generation := by
  induction run with
  | nil => exact ⟨.nil, by simp [seen]⟩
  | @snoc history before after step earlier taken ih =>
      obtain ⟨pairwise, latest⟩ := ih
      have informed := Run.informed earlier
      have bound := informed.generation_le (Run.informed (earlier.snoc taken))
      have fresh : ∀ snapshot, served? before step = some snapshot →
          before.cache.status.generation = snapshot.generation :=
        fun snapshot given => informed.generation_of_current (current_of_served? given)
      rw [seen_snoc]
      refine ⟨List.pairwise_append.mpr ⟨pairwise, by cases served? before step <;> simp, ?_⟩, ?_⟩
      · intro old member snapshot new
        rw [← fresh snapshot (Option.mem_toList.mp new)]
        exact latest old member
      · intro snapshot member
        rcases List.mem_append.mp member with old | new
        · exact Nat.le_trans (latest snapshot old) bound
        · rw [← fresh snapshot (Option.mem_toList.mp new)]
          exact bound

theorem present_of_unpublished (taken : before.step step = some after)
    (unpublished : ∀ catalog, ending? before step ≠ some (.ok catalog)) (ticket : Nat) :
    after.present ticket = before.present ticket := by
  rw [present, present, current_of_unpublished taken unpublished, questions_of_step taken]

/-- Whoever is told something in a step is told what there is at present. -/
theorem answer?_of_step (attended : Attended before) (informed : Informed history before)
    (taken : before.step step = some after) {answer : Except QueryError Answer}
    (told : after.answer? ticket = some answer) :
    before.answer? ticket = some answer ∨ answer = before.present ticket := by
  cases moves_of_step taken ticket with
  | stayed other same =>
      rw [answer?, same, questions_of_step taken] at told
      exact .inl told
  | came new now => simp [answer?, now] at told
  | @wentOn visit reached own found next now =>
      cases reached with
      | served snapshot =>
          have content : before.current = some snapshot := Visit.current_of_next?_served next
          simp only [answer?, now, questions_of_step taken, Option.some.injEq] at told
          rw [present, content, ← told]
          exact .inr rfl
      | gone => exact absurd next Visit.next?_ne_gone
      | _ => simp [answer?, now] at told
  | left found stillThere waits now =>
      have nothing := current_of_waits attended informed found stillThere waits
      simp only [answer?, now, Option.some.injEq] at told
      rw [present, nothing, ← told]
      exact .inr rfl

/-- While no load succeeds, everybody is told what they would have been told at first. -/
theorem Run.unharmed (run : Run (ofSource source questions) history lobby)
    (continued : Run lobby later final)
    (unpublished : ∀ catalog, .ok catalog ∉ seen ending? later) :
    final.present = lobby.present ∧ ∀ ticket answer, final.answer? ticket = some answer →
      lobby.answer? ticket = some answer ∨ answer = lobby.present ticket := by
  induction continued with
  | nil => exact ⟨rfl, fun ticket answer told => .inl told⟩
  | @snoc more before after step earlier taken ih =>
      rw [seen_snoc] at unpublished
      obtain ⟨present, answers⟩ :=
        ih fun catalog member => unpublished catalog (List.mem_append_left _ member)
      have failed : ∀ catalog, ending? before step ≠ some (.ok catalog) := by
        intro catalog ended
        exact unpublished catalog (List.mem_append_right _ (by simp [ended]))
      have whole := run.append earlier
      refine ⟨?_, ?_⟩
      · rw [← present]
        exact funext (present_of_unpublished taken failed)
      · intro ticket answer told
        rw [← present]
        rcases answer?_of_step (Run.attended whole) (Run.informed whole) taken told with old | new
        · rw [present]
          exact answers ticket answer old
        · exact .inr new

theorem Run.questions_eq (continued : Run lobby later final) :
    final.questions = lobby.questions := by
  induction continued with
  | nil => rfl
  | snoc earlier taken ih => exact (questions_of_step taken).trans ih

theorem answer?_of_served (content : lobby.current = some snapshot)
    (same : final.questions = lobby.questions)
    (served : final.visits ticket = some (.served snapshot)) :
    final.answer? ticket = some (lobby.present ticket) := by
  rw [answer?, served, present, content, same]

/-- With content there, a newcomer gets it at the first look. -/
theorem Run.enters (run : Run (ofSource source questions) history lobby)
    (content : lobby.current = some snapshot) (new : lobby.visits ticket = none) :
    ∃ entered final, lobby.step (.enter ticket) = some entered ∧
      entered.step (.goOn ticket) = some final ∧
      final.answer? ticket = some (lobby.present ticket) := by
  have entering : lobby.step (.enter ticket) =
      some (lobby.note ticket .arrived
        { lobby.service with waiting := lobby.service.waiting ++ [ticket] }) := by
    simp only [Lobby.step, new]
    rfl
  have longer := run.snoc entering
  obtain ⟨reached, service, taken, same, next⟩ :=
    step_goOn (Run.attended longer) (Run.informed longer) content note_visits_self rfl
  have served := Visit.remaining_of_next? content next
  have ready := Visit.eq_served_of_next? content next
    (Visit.remaining_eq_zero_iff.mp (Nat.succ.inj served))
  subst ready
  exact ⟨_, _, entering, taken, answer?_of_served content rfl note_visits_self⟩

/-- With content there, nobody goes away without it. -/
theorem Run.stays (run : Run (ofSource source questions) history lobby)
    (content : lobby.current = some snapshot) (ticket : Nat) : lobby.step (.leave ticket) = none := by
  rw [Option.eq_none_iff_forall_ne_some]
  intro after taken
  cases transition_of_step taken with
  | left found timed stillThere waits moved =>
      exact absurd waits (next?_ne_none run.attended run.informed content found stillThere)

/-- Whatever has come between, whoever was there when content came has it or can go on at once. -/
theorem Run.served_or_awake (run : Run (ofSource source questions) history lobby)
    (continued : Run lobby later final) (content : lobby.current = some snapshot)
    (found : lobby.visits ticket = some visit) (stillThere : visit.isOpen = true) :
    (∃ given, final.visits ticket = some (.served given)) ∨
      (final.step (.goOn ticket)).isSome = true ∧ ownSteps ticket later < 2 := by
  obtain ⟨reached, foundNow, left, distance⟩ := run.nearer continued content found
  obtain ⟨newer, held, _⟩ := run.current_of_continued continued content
  have whole := run.append continued
  cases stillOpen : reached.isOpen with
  | true =>
      obtain ⟨next, service, taken, _⟩ :=
        step_goOn (Run.attended whole) (Run.informed whole) held foundNow stillOpen
      have far : reached.remaining ≠ 0 := by
        rw [ne_eq, Visit.remaining_eq_zero_iff, stillOpen]
        simp
      have bound := visit.remaining_le
      exact .inr ⟨Option.isSome_of_eq_some taken, by omega⟩
  | false =>
      cases reached with
      | served given => exact .inl ⟨given, foundNow⟩
      | gone =>
          rw [left rfl] at stillThere
          cases stillThere
      | _ => cases stillOpen

/-- Nobody is kept from content that is there. -/
structure Ready (history : List (Lobby × Step)) (lobby : Lobby) : Prop where
  empty : lobby.current = none ↔ ∀ catalog, .ok catalog ∉ seen ending? history
  waits : ∀ ticket visit, lobby.visits ticket = some visit → visit.isOpen = true →
    visit.next? lobby.cache = none → lobby.current = none
  completes : ∀ snapshot, lobby.current = some snapshot → ∀ ticket visit,
    lobby.visits ticket = some visit → visit.isOpen = true →
    ∃ own final, Run lobby own final ∧ (∀ entry ∈ own, entry.2 = .goOn ticket) ∧ own.length ≤ 2 ∧
      final.answer? ticket = some (lobby.present ticket)
  /-- The same, when others take steps between. -/
  awake : ∀ snapshot, lobby.current = some snapshot → ∀ ticket visit,
    lobby.visits ticket = some visit → visit.isOpen = true →
    ∀ later final, Run lobby later final → (∃ given, final.visits ticket = some (.served given)) ∨
      (final.step (.goOn ticket)).isSome = true ∧ ownSteps ticket later < 2
  enters : ∀ snapshot, lobby.current = some snapshot → ∀ ticket, lobby.visits ticket = none →
    ∃ entered final, lobby.step (.enter ticket) = some entered ∧
      entered.step (.goOn ticket) = some final ∧
      final.answer? ticket = some (lobby.present ticket)
  stays : ∀ snapshot, lobby.current = some snapshot → ∀ ticket, lobby.step (.leave ticket) = none
  ascending : (seen served? history).Pairwise fun earlier later =>
    earlier.generation ≤ later.generation
  unharmed : ∀ later final, Run lobby later final → (∀ catalog, .ok catalog ∉ seen ending? later) →
    final.present = lobby.present ∧ ∀ ticket answer, final.answer? ticket = some answer →
      lobby.answer? ticket = some answer ∨ answer = lobby.present ticket

theorem Run.ready (run : Run (ofSource source questions) history lobby) : Ready history lobby where
  empty := run.informed.current_eq_none_iff_unpublished
  waits := fun _ _ found stillThere waits =>
    current_of_waits run.attended run.informed found stillThere waits
  completes := by
    intro snapshot content ticket visit found stillThere
    obtain ⟨own, final, later, allOwn, length, served⟩ := run.completes content found stillThere
    exact ⟨own, final, later, allOwn, length ▸ visit.remaining_le,
      answer?_of_served content (Run.questions_eq later) served⟩
  awake := fun _ content _ _ found stillThere _ _ continued =>
    run.served_or_awake continued content found stillThere
  enters := fun _ content _ new => run.enters content new
  stays := fun _ content ticket => run.stays content ticket
  ascending := run.ascending.1
  unharmed := fun _ _ continued unpublished => run.unharmed continued unpublished

end Lobby

namespace Timeline

variable {timeline : Timeline} {step : Service.Step} {snapshot : Snapshot}

@[simp] theorem reschedule_now (timeline : Timeline) (step : Service.Step) :
    (timeline.reschedule step).now = timeline.now := by
  cases step with
  | reload inner => cases inner <;> rfl
  | _ => rfl

@[simp] theorem perform_now (timeline : Timeline) (step : Service.Step) :
    (timeline.perform step).now = timeline.now := by
  rw [perform]
  split
  · exact reschedule_now timeline step
  · rfl

theorem perform_reloader (timeline : Timeline) (visit : step.isVisit = true) :
    (timeline.perform step).reloader = timeline.reloader := by
  rw [perform]
  split
  · next service moved =>
      cases Service.transition_of_step moved with
      | stoodAside aside => rfl
      | _ => cases visit
  · rfl

/-- Content that is there is found at once, however short the time. -/
theorem await_of_current (content : timeline.current = some snapshot) (patience : Nat) :
    ∃ later, timeline.await patience = (later, some snapshot) ∧ later.now = timeline.now ∧
      later.reloader = timeline.reloader := by
  have asked : (timeline.perform (.ask 0)).reloader = timeline.reloader :=
    perform_reloader timeline rfl
  have served : Visit.arrived.settle timeline.reloader.cache = .served snapshot :=
    Visit.settle_eq_served content rfl (by simp [Visit.next?])
  have still : (Visit.served snapshot).settle timeline.reloader.cache = .served snapshot := rfl
  refine ⟨((timeline.perform (.ask 0)).perform (.answer 0)).perform (.giveUp 0), ?_, ?_, ?_⟩
  · simp [await, asked, served, still, Visit.snapshot?]
  · simp
  · rw [perform_reloader _ rfl, perform_reloader _ rfl, asked]

end Timeline

namespace Lobby

variable {source : Source} {questions : Nat → Question} {history : List (Lobby × Step)}
  {lobby : Lobby}

/-- However loads, failures and those who ask fall together, nobody is kept from content that is
there: in no state of a run, and at no time. -/
theorem ready_of_run (run : Run (ofSource source questions) history lobby) :
    Ready history lobby ∧ ∀ (timeline : Timeline) (snapshot : Snapshot),
      timeline.service = lobby.service → lobby.current = some snapshot → ∀ patience, ∃ later,
        timeline.await patience = (later, some snapshot) ∧ later.now = timeline.now ∧
          later.reloader = timeline.reloader := by
  refine ⟨run.ready, ?_⟩
  intro timeline snapshot same content patience
  refine Timeline.await_of_current ?_ patience
  rw [Timeline.current, same]
  exact content

/-- Two sleep before the first publication.  One of them goes away after a failed load, the other
gets what the next load publishes; the load after that fails. -/
def sleepersBeforePublication : List Step :=
  [.enter 0, .goOn 0, .goOn 0, .goOn 0, .enter 1, .goOn 1, .goOn 1, .goOn 1,
    .serve (.reload (.setAvailable false)), .serve (.reload (.request 0)),
    .serve (.reload .begin), .serve (.reload .probe), .serve (.reload .finish), .leave 1,
    .serve (.reload (.setAvailable true)), .serve (.reload (.request 1)),
    .serve (.reload .begin), .serve (.reload .probe), .serve (.reload .read),
    .serve (.reload .finish), .goOn 0, .goOn 0, .serve (.reload (.setAvailable false)),
    .serve (.reload (.request 2)), .serve (.reload .begin), .serve (.reload .probe),
    .serve (.reload .finish)]

theorem sleepersBeforePublication_ready :
    ∃ run, Trace.execute step
        (ofSource (.memory .empty true) fun ticket => if ticket = 0 then .everything else .readiness)
        sleepersBeforePublication = some run ∧
      run.2.answer? 0 = some (.ok (.content ⟨1, .empty⟩)) ∧
      run.2.answer? 1 = some (.error .notReady) ∧ Ready run.1 run.2 := by
  obtain ⟨run, executed, served, left⟩ :
      ∃ run, Trace.execute step
          (ofSource (.memory .empty true) fun ticket =>
            if ticket = 0 then .everything else .readiness)
          sleepersBeforePublication = some run ∧
        run.2.answer? 0 = some (.ok (.content ⟨1, .empty⟩)) ∧
        run.2.answer? 1 = some (.error .notReady) :=
    ⟨_, rfl, rfl, rfl⟩
  exact ⟨run, executed, served, left, (ready_of_run (Trace.of_execute executed)).1⟩

end Lobby

end Audience
