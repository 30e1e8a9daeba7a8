import Audience.Proofs.Reload.Notices
import Audience.Proofs.Reload.Progress
import Mathlib.Data.List.Nodup

namespace Audience

/-! The reload that follows a reload.

While the worker is in a reload, its notices are merged in the one that is kept.  The next time that
it looks it finds them all, and this is the only reload that is due to them.  Where nothing is kept
at the end of a reload, it takes a new notice to bring about another one.
-/

namespace Coordinator

variable {source : Source} {initial before after final : Coordinator} {act : Step} {book : Ledger}
  {history later : List (Coordinator × Step)}

/-- A reload of the worker: the step that takes it up, what happens during it, and its end.  The
worker waits in line during the first part of it. -/
structure Round (taking : Coordinator × Step) (during : List (Coordinator × Step))
    (ending : Coordinator × Step) : Prop where
  takesUp : taking.1.takesUp taking.2 = true
  unended : ∀ entry ∈ during, entry.1.endsReload entry.2 = false
  ends : ending.1.endsReload ending.2 = true

/-- Whether a notice is still kept after the worker has taken up another. -/
def Stored (taking : Coordinator × Step) : Prop :=
  ∃ next, taking.1.step taking.2 = some next ∧ next.reloader.permit = true

/-- The numbers of the notices that come during the second of two parts of a history. -/
def arrived (earlier during : List (Coordinator × Step)) : List Nat :=
  List.range' (notices earlier) (notices during)

/-- A number of reloads are over, and some notices are kept for the next. -/
structure Awaits (book : Ledger) (coordinator : Coordinator) (number : Nat) (owed : List Nat) :
    Prop where
  idle : coordinator.reloader.worker = some .looking ∨ coordinator.reloader.worker = none
  count : book.answered.length = number
  kept : owed ⊆ book.kept

/-- A reload takes up all of some notices. -/
def AnsweredBy (book : Ledger) (number : Nat) (owed : List Nat) : Prop :=
  ∃ batch, book.answered[number]? = some batch ∧ owed ⊆ batch

/-- The worker is in the reload that takes up all of some notices. -/
structure Answering (book : Ledger) (coordinator : Coordinator) (number : Nat) (owed : List Nat) :
    Prop where
  reloading : coordinator.reloader.worker = some .reloading
  count : book.answered.length = number + 1
  answered : AnsweredBy book number owed

namespace Ledger.Entry

variable {entered : Ledger} {number : Nat} {owed : List Nat}

theorem during (entry : Entry book before act after entered)
    (reloading : before.reloader.worker = some .reloading)
    (unended : before.endsReload act = false) :
    after.reloader.worker = some .reloading ∧ (entered = book ∨
      entered = { book with given := book.given + 1, kept := book.kept ++ [book.given] }) := by
  cases entry with
  | aside other worker permit => exact ⟨worker.trans reloading, .inl rfl⟩
  | quits other stopping worker permit idle => simp [reloading] at idle
  | kept isNotice other busy worker permit => exact ⟨worker.trans reloading, .inr rfl⟩
  | ended ends other inReload worker permit => simp [unended] at ends
  | _ => simp_all

theorem answered (entry : Entry book before act after entered) :
    ∃ more, entered.answered = book.answered ++ more := by
  cases entry with
  | foundKept takesUp looking stored worker permit => exact ⟨_, rfl⟩
  | took takesUp notified worker permit => exact ⟨_, rfl⟩
  | _ => exact ⟨[], (List.append_nil _).symm⟩

theorem awaits (entry : Entry book before act after entered) (agrees : book.Agrees before)
    (awaits : Awaits book before number owed) (nonempty : owed ≠ []) :
    Awaits entered after number owed ∨ Answering entered after number owed := by
  have idle := awaits.idle
  have keeps : book.kept ≠ [] := fun none =>
    nonempty (List.subset_nil.mp (none ▸ awaits.kept))
  cases entry with
  | aside other worker permit => exact .inl ⟨worker ▸ idle, awaits.count, awaits.kept⟩
  | spawned other gone worker permit => exact .inl ⟨.inl worker, awaits.count, awaits.kept⟩
  | quits other stopping worker permit wasIdle =>
      exact .inl ⟨.inr worker, awaits.count, awaits.kept⟩
  | kept isNotice other busy worker permit =>
      exact .inl ⟨worker ▸ idle, awaits.count, List.subset_append_of_subset_left _ awaits.kept⟩
  | foundKept takesUp _ stored worker permit =>
      -- All that is kept goes into one batch.
      refine .inr ⟨worker, by simp [awaits.count], book.kept, ?_, awaits.kept⟩
      rw [← awaits.count, List.getElem?_concat_length]
  | waits other _ nothing worker permit =>
      rw [agrees.kept.mpr keeps] at nothing
      cases nothing
  | ended ends other reloading worker permit => simp [reloading] at idle
  | woke isNotice other waiting worker permit => simp [waiting] at idle
  | took takesUp notified worker permit => simp [notified] at idle
  | handsBack other stopping notified worker permit => simp [notified] at idle

theorem answering (entry : Entry book before act after entered)
    (answering : Answering book before number owed) (unended : before.endsReload act = false) :
    Answering entered after number owed := by
  obtain ⟨reloading, rfl | rfl⟩ := entry.during answering.reloading unended
  · exact ⟨reloading, answering.count, answering.answered⟩
  · exact ⟨reloading, answering.count, answering.answered⟩

end Ledger.Entry

variable {number : Nat} {owed : List Nat}

theorem exists_answered_through (booked : Booked book initial)
    (run : Trace step initial history final) :
    ∃ more, (book.through history).answered = book.answered ++ more := by
  induction run with
  | nil => exact ⟨[], (List.append_nil _).symm⟩
  | @snoc history before after act earlier taken ih =>
      obtain ⟨first, same⟩ := ih
      obtain ⟨last, entered⟩ := ((booked.of_run earlier).of_step taken).1.answered
      rw [Ledger.through_snoc, entered, same, List.append_assoc]
      exact ⟨_, rfl⟩

theorem AnsweredBy.through (answered : AnsweredBy book number owed) (booked : Booked book initial)
    (run : Trace step initial history final) : AnsweredBy (book.through history) number owed := by
  obtain ⟨batch, found, all⟩ := answered
  obtain ⟨more, grown⟩ := exists_answered_through booked run
  refine ⟨batch, ?_, all⟩
  rw [grown, List.getElem?_append_left (List.getElem?_eq_some_iff.mp found).1, found]

theorem through_of_reloading (booked : Booked book initial)
    (reloading : initial.reloader.worker = some .reloading)
    (run : Trace step initial history final)
    (unended : ∀ entry ∈ history, entry.1.endsReload entry.2 = false) :
    final.reloader.worker = some .reloading ∧
      book.through history = { book with
        given := book.given + notices history
        kept := book.kept ++ List.range' book.given (notices history) } := by
  -- As many notices are kept as are given, so it is enough that there is a count.
  suffices inReload : final.reloader.worker = some .reloading ∧ ∃ count,
      book.through history = { book with
        given := book.given + count, kept := book.kept ++ List.range' book.given count } by
    obtain ⟨still, count, same⟩ := inReload
    have counted : count = notices history := by
      have given := given_through book history
      rw [same] at given
      exact Nat.add_left_cancel given
    exact ⟨still, counted ▸ same⟩
  induction run with
  | nil => exact ⟨reloading, 0, by simp [Ledger.through]⟩
  | @snoc history before after act earlier taken ih =>
      obtain ⟨others, other⟩ := List.forall_mem_append.mp unended
      obtain ⟨still, count, same⟩ := ih others
      obtain ⟨entry, -⟩ := (booked.of_run earlier).of_step taken
      obtain ⟨last, unchanged | merged⟩ := entry.during still (other _ List.mem_cons_self)
      · exact ⟨last, count, by rw [Ledger.through_snoc, unchanged, same]⟩
      · refine ⟨last, count + 1, ?_⟩
        rw [Ledger.through_snoc, merged, same, List.range'_1_concat]
        simp [Nat.add_assoc]

theorem step_ended (taken : before.step act = some after) (ends : before.endsReload act = true) :
    after.reloader.worker = some .looking ∧ after.reloader.permit = before.reloader.permit ∧
      ∀ book : Ledger, book.enter before act = book := by
  obtain ⟨outcome, marked⟩ := exists_of_endsReload ends
  obtain ⟨finish, own⟩ := Reloader.finish_of_ended marked
  cases act with
  | go inner =>
      cases finish
      cases Reloader.effect_of_step (step_inner taken rfl) rfl with
      | aside isAside => cases isAside
      | woke isNotice => cases isNotice
      | kept isNotice => cases isNotice
      | advanced advance => rcases advance with advance | advance <;> cases advance
      | @finished party rest outcome after waiting loaded line load worker permit stopping =>
          have first : party = .worker := by simpa [Reloader.turn, waiting] using own
          exact ⟨by rw [worker, if_pos first], permit, fun _ => rfl⟩
  | _ => cases finish

theorem Ledger.Entry.taken {entered : Ledger} (entry : Entry book before act after entered)
    (takesUp : before.takesUp act = true) :
    after.reloader.worker = some .reloading ∧ entered.given = book.given ∧
      entered.answered.length = book.answered.length + 1 := by
  cases entry with
  | foundKept _ looking stored worker permit => exact ⟨worker, rfl, List.length_append⟩
  | took _ notified worker permit => exact ⟨worker, rfl, List.length_append⟩
  | _ => simp_all

structure Closed (earlier : List (Coordinator × Step)) (taking : Coordinator × Step)
    (during : List (Coordinator × Step)) (book : Ledger) (final : Coordinator) : Prop where
  looking : final.reloader.worker = some .looking
  awaits : Awaits book final (takenUp earlier + 1) (arrived earlier during)
  permit : final.reloader.permit = true ↔ Stored taking ∨ 0 < notices during

variable {earlier during : List (Coordinator × Step)} {taking ending : Coordinator × Step}

theorem closed_of_round (run : Run source (earlier ++ taking :: (during ++ [ending])) final)
    (round : Round taking during ending) :
    Closed earlier taking during (ledger (earlier ++ taking :: (during ++ [ending]))) final := by
  obtain ⟨start, first, rest⟩ := run.split rfl
  obtain ⟨rfl, next, taken, rest⟩ := rest.uncons rfl
  obtain ⟨last, between, rest⟩ := rest.split rfl
  obtain ⟨rfl, ended, finished, rest⟩ := rest.uncons rfl
  cases rest.eq_of_nil rfl
  have booked : Booked (ledger earlier) taking.1 := (booked_ofSource source).of_run first
  obtain ⟨entry, bookedNext⟩ := booked.of_step taken
  obtain ⟨reloading, given, count⟩ := entry.taken round.takesUp
  rw [given_ledger] at given
  obtain ⟨-, merged⟩ := through_of_reloading bookedNext reloading between round.unended
  rw [given] at merged
  obtain ⟨looking, permit, same⟩ := step_ended finished round.ends
  have whole : ledger (earlier ++ taking :: (during ++ [ending])) =
      ((ledger earlier).enter taking.1 taking.2).through during := by
    rw [ledger_append, Ledger.through_cons, ← Prod.eta ending, Ledger.through_snoc, same]
  rw [whole, merged]
  refine ⟨looking,
    ⟨.inl looking, by rw [count, length_ledger first], List.subset_append_right _ _⟩, ?_⟩
  have keeps := (bookedNext.of_run between).agrees.kept
  have stored : Stored taking ↔ next.reloader.permit = true := by simp [Stored, taken]
  rw [permit, keeps, merged, stored, bookedNext.agrees.kept]
  simp [List.append_eq_nil_iff, Nat.pos_iff_ne_zero, or_iff_not_imp_left]

theorem answered_of_awaits (booked : Booked book initial)
    (awaits : Awaits book initial number owed) (nonempty : owed ≠ [])
    (run : Trace step initial history final) :
    Awaits (book.through history) final number owed ∨
      AnsweredBy (book.through history) number owed := by
  induction run with
  | nil => exact .inl awaits
  | @snoc history before after act earlier taken ih =>
      have between := booked.of_run earlier
      obtain ⟨entry, -⟩ := between.of_step taken
      rw [Ledger.through_snoc]
      rcases ih with still | answered
      · exact (entry.awaits between.agrees still nonempty).imp_right Answering.answered
      · exact .inr (answered.through between (.snoc .nil taken))

theorem Ledger.Agrees.eq_of_answered (agrees : book.Agrees final)
    (settled : Awaits book final number owed ∨ AnsweredBy book number owed) {other : Nat}
    {batch : List Nat} (found : book.answered[other]? = some batch) {notice : Nat}
    (isOwed : notice ∈ owed) (takenUp : notice ∈ batch) : other = number := by
  have once : (book.answered.flatten ++ book.woke.toList ++ book.kept).Nodup :=
    agrees.once.nodup_iff.mpr List.nodup_range
  have inAnswered : notice ∈ book.answered.flatten :=
    List.mem_flatten.mpr ⟨batch, List.mem_of_getElem? found, takenUp⟩
  -- A notice is in one place: not both kept and answered, nor in two batches.
  rcases settled with awaits | ⟨own, ownFound, all⟩
  · exact absurd (awaits.kept isOwed) (List.disjoint_of_nodup_append once
      (List.mem_append_left _ inAnswered))
  · have apart := (List.nodup_flatten.mp once.of_append_left.of_append_left).2
    rw [List.pairwise_iff_getElem] at apart
    obtain ⟨inRange, rfl⟩ := List.getElem?_eq_some_iff.mp found
    obtain ⟨ownInRange, rfl⟩ := List.getElem?_eq_some_iff.mp ownFound
    rcases Nat.lt_trichotomy other number with less | same | more
    · exact absurd (all isOwed) (apart _ _ inRange ownInRange less takenUp)
    · exact same
    · exact absurd takenUp (apart _ _ ownInRange inRange more (all isOwed))

section

variable (run : Endless step initial)

/-- The first reload to come to its end is the one that the notices are kept for. -/
theorem stage_at (booked : Booked book initial) (awaits : Awaits book initial number owed)
    (nonempty : owed ≠ []) (time : Nat) :
    (Awaits (book.through (run.history time)) (run.state time) number owed ∨
      Answering (book.through (run.history time)) (run.state time) number owed) ∨
    ∃ earlier < time, EndsLoadAt run earlier ∧
      Answering (book.through (run.history earlier)) (run.state earlier) number owed := by
  induction time with
  | zero =>
      rw [run.initially]
      exact .inl (.inl awaits)
  | succ time ih =>
      rcases ih with stage | ⟨earlier, before, ended⟩
      · rcases run.next time with ⟨nothing, same⟩ | ⟨act, acted, taken⟩
        · rw [Endless.history_of_none nothing, same]
          exact .inl stage
        · have now := booked.of_run (run.trace time)
          obtain ⟨entry, -⟩ := now.of_step taken
          rw [Endless.history_of_some acted, Ledger.through_snoc]
          rcases stage with awaits | answering
          · exact .inl (entry.awaits now.agrees awaits nonempty)
          · cases ends : (run.state time).endsReload act with
            | true =>
                obtain ⟨outcome, marked⟩ := exists_of_endsReload ends
                exact .inr ⟨time, Nat.lt_succ_self time,
                  ⟨act, acted, endsLoad_of_ended marked taken⟩, answering⟩
            | false => exact .inl (.inr (entry.answering answering ends))
      · exact .inr ⟨earlier, Nat.lt_succ_of_lt before, ended⟩

variable {run}

theorem answering_of_endsLoad (booked : Booked book initial)
    (awaits : Awaits book initial number owed) (nonempty : owed ≠ []) {time : Nat}
    (ended : EndsLoadAt run time) :
    ∃ time, EndsLoadAt run time ∧
      Answering (book.through (run.history time)) (run.state time) number owed := by
  rcases stage_at run booked awaits nonempty time with
    (still | answering) | ⟨earlier, -, ended, answering⟩
  · -- Whose turn it is to load is in line, and so the worker is in a reload.
    obtain ⟨act, -, ends⟩ := ended
    have idle := still.idle
    have reloading := (coordinated_at run booked.coordinated time).orderly.reloading ends.own
    simp [reloading] at idle
  · exact ⟨time, ended, answering⟩
  · exact ⟨earlier, ended, answering⟩

theorem answering_of_awaits (booked : Booked book initial)
    (going : initial.reloader.stopping = false)
    (looking : initial.reloader.worker = some .looking)
    (awaits : Awaits book initial number owed) (nonempty : owed ≠ []) (fair : IsFair run)
    (unstopped : ∀ time, run.act time ≠ some .shutDown) :
    ∃ time, EndsLoadAt run time ∧
      Answering (book.through (run.history time)) (run.state time) number owed := by
  have permit : initial.reloader.permit = true :=
    booked.agrees.kept.mpr fun none => nonempty (List.subset_nil.mp (none ▸ awaits.kept))
  have summoned : (run.state 0).Summoned := by
    simp [run.initially, Summoned, looking, permit]
  have stopping : (run.state 0).reloader.stopping = false := by rwa [run.initially]
  have takesUpFirst : TakesUpFirst run := fun time stop => absurd stop (unstopped time)
  obtain ⟨time, ended⟩ :=
    endsLoad_of_summoned booked.coordinated fair takesUpFirst stopping summoned
  exact answering_of_endsLoad booked awaits nonempty ended

end

/-- What becomes of the notices that come during a reload, and of the worker after it. -/
structure Followed (earlier : List (Coordinator × Step)) (taking : Coordinator × Step)
    (during later : List (Coordinator × Step)) (book : Ledger) : Prop where
  /-- With no notice kept at its beginning and none during it, every further reload takes a further
  notice. -/
  rests : ¬Stored taking → notices during = 0 →
    ∀ part, part <+: later → takenUp part ≤ notices part
  /-- However many notices come during it, all but one of the further reloads take a further
  notice each. -/
  merged : ∀ part, part <+: later → takenUp part ≤ notices part + 1
  /-- The next reload, and no other one, takes them up. -/
  alone : ∀ number batch, book.answered[number]? = some batch →
    ∀ notice ∈ arrived earlier during, notice ∈ batch → number = takenUp earlier + 1

/-- What becomes of the notices of a run. -/
structure Answers (history : List (Coordinator × Step)) (final : Coordinator) : Prop where
  /-- Each notice is kept, or has woken the worker, or has been taken up by one reload. -/
  agrees : (ledger history).Agrees final
  bounded : begun history ≤ takenUp history ∧ takenUp history ≤ notices history
  followed : ∀ earlier taking during ending later,
    history = earlier ++ taking :: (during ++ ending :: later) → Round taking during ending →
      Followed earlier taking during later (ledger history)
  going : (∀ entry ∈ history, entry.2 ≠ .shutDown) → final.reloader.stopping = false
  /-- If the parties go on and nobody tells the worker to stop, the next reload takes up the notices
  and comes to its end. -/
  comes : ∀ earlier taking during ending, history = earlier ++ taking :: (during ++ [ending]) →
    Round taking during ending → 0 < notices during → final.reloader.stopping = false →
      ∀ run : Endless step final, IsFair run → (∀ time, run.act time ≠ some .shutDown) →
        ∃ time, EndsLoadAt run time ∧
          Answering (ledger (history ++ run.history time)) (run.state time) (takenUp earlier + 1)
            (arrived earlier during)

theorem arrived_ne_nil (came : 0 < notices during) : arrived earlier during ≠ [] := by
  rw [arrived, ne_eq, List.range'_eq_nil_iff]
  exact Nat.ne_of_gt came

theorem followed_of_round {atEnd : Coordinator}
    (first : Run source (earlier ++ taking :: (during ++ [ending])) atEnd)
    (rest : Trace step atEnd later final) (round : Round taking during ending) :
    Followed earlier taking during later
      (ledger (earlier ++ taking :: (during ++ [ending]) ++ later)) := by
  have booked := (booked_ofSource source).of_run first
  have closed := closed_of_round first round
  have further (part : List (Coordinator × Step)) (isPart : part <+: later) :
      takenUp part ≤ atEnd.reloader.permit.toNat + notices part := by
    obtain ⟨others, rfl⟩ := isPart
    obtain ⟨_, partRun, -⟩ := rest.split rfl
    have fewer := takenUp_le booked partRun
    have pending : pending atEnd = atEnd.reloader.permit.toNat := by
      simp [pending, closed.looking]
    omega
  refine ⟨fun unstored none part isPart => ?_, fun part isPart => ?_, ?_⟩
  · have nothing : atEnd.reloader.permit = false := by
      simpa [unstored, none] using closed.permit
    simpa [nothing] using further part isPart
  · have one := Bool.toNat_le atEnd.reloader.permit
    have fewer := further part isPart
    omega
  · intro number batch found notice isOwed inBatch
    have settled := answered_of_awaits booked closed.awaits (List.ne_nil_of_mem isOwed) rest
    rw [ledger_append] at found
    exact (booked.of_run rest).agrees.eq_of_answered settled found isOwed inBatch

/-- The worker answers each notice by one reload, and all of those that come during a reload by the
next one. -/
theorem answers_of_run (run : Run source history final) : Answers history final where
  agrees := ((booked_ofSource source).of_run run).agrees
  bounded := by
    refine ⟨begun_le_takenUp run, ?_⟩
    have fewer := takenUp_le (booked_ofSource source) run
    have nothing : pending (ofSource source) = 0 := by
      simp [pending, ofSource, Reloader.ofSource]
    omega
  followed := by
    intro earlier taking during ending later parts round
    have atEnd : history = earlier ++ taking :: (during ++ [ending]) ++ later := by simp [parts]
    obtain ⟨middle, first, rest⟩ := run.split atEnd
    rw [atEnd]
    exact followed_of_round first rest round
  going := going_of_run run
  comes := by
    rintro earlier taking during ending rfl round came going later fair unstopped
    have closed := closed_of_round run round
    obtain ⟨time, ended, answering⟩ := answering_of_awaits ((booked_ofSource source).of_run run)
      going closed.looking closed.awaits (arrived_ne_nil came) fair unstopped
    refine ⟨time, ended, ?_⟩
    rw [ledger_append]
    exact answering

/-- Two notices and a write come while the worker is in line behind a request, or loads. -/
def coalesced : List Step :=
  [.start, .greet, .go (.request 0), .go .begin, .go .look, .go .notify, .go (.replace .empty),
    .go .probe, .go .announce, .go .read, .go .finish, .go .begin, .go .notify, .go .probe,
    .go .read, .go .finish]

def caughtUp : List Step :=
  [.go .look, .go .begin, .go .probe, .go .read, .go .finish, .go .look]

theorem coalesced_answered :
    ∃ run, Trace.execute step (ofSource (.memory .empty true)) coalesced = some run ∧
      Answers run.1 run.2 ∧ run.2.reloader.stopping = false ∧
      (∃ earlier taking during ending, run.1 = earlier ++ taking :: (during ++ [ending]) ∧
        Round taking during ending ∧ arrived earlier during = [1, 2, 3]) ∧
      ∃ later : Endless step run.2, IsFair later ∧ ∀ time, later.act time ≠ some .shutDown := by
  obtain ⟨run, executed, going, earlier, taking, during, ending, parts, takesUp, unended, ends,
      notices, next, continued, acts, rest⟩ :
      ∃ run, Trace.execute step (ofSource (.memory .empty true)) coalesced = some run ∧
        run.2.reloader.stopping = false ∧
        ∃ earlier taking during ending, run.1 = earlier ++ taking :: (during ++ [ending]) ∧
          taking.1.takesUp taking.2 = true ∧
          during.all (fun entry => !entry.1.endsReload entry.2) = true ∧
          ending.1.endsReload ending.2 = true ∧ arrived earlier during = [1, 2, 3] ∧
          ∃ next, Trace.execute step run.2 caughtUp = some next ∧
            next.1.map Prod.snd = caughtUp ∧ next.2.AtRest :=
    ⟨_, rfl, rfl, [_, _, _, _], _, [_, _, _, _, _, _, _, _, _, _], _, rfl, rfl, rfl, rfl, rfl,
      _, rfl, rfl, rfl, rfl, rfl, .inl rfl⟩
  have round : Round taking during ending := ⟨takesUp, by simpa using unended, ends⟩
  obtain ⟨later, happens, fair⟩ := exists_isFair (Trace.of_execute continued) rest
  refine ⟨run, executed, answers_of_run (Trace.of_execute executed), going,
    ⟨earlier, taking, during, ending, parts, round, notices⟩, later, fair, fun time stop => ?_⟩
  have stops : Step.shutDown ∈ caughtUp := acts ▸ happens time _ stop
  simp [caughtUp] at stops

end Coordinator

end Audience
