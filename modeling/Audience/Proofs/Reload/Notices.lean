import Audience.Proofs.Reload.Coordinator
import Mathlib.Data.List.Induction

namespace Audience

/-! Which reload of the worker answers which notices.

A ledger keeps the numbers of the notices beside a run: those that are merged in the one that is
kept, the one that has woken the worker, and those that each reload has taken up.  No notice is in
two places, so what arrives during a reload is answered by the next reload of the worker and by no
other.
-/

namespace Coordinator

def isNotice (coordinator : Coordinator) : Step → Bool
  | .greet => true
  | .go step => coordinator.reloader.isNotice step
  | _ => false

/-- Whether the worker takes up a notice with a step, and so begins to be in a reload. -/
def takesUp (coordinator : Coordinator) (act : Step) : Bool :=
  (coordinator.reloader.mark? act.inner).any Reloader.Mark.isTaken

def endsReload (coordinator : Coordinator) (act : Step) : Bool :=
  (coordinator.reloader.mark? act.inner).any Reloader.Mark.isEnded

structure Ledger where
  given : Nat
  /-- The notices merged in the one that is kept. -/
  kept : List Nat
  woke : Option Nat
  /-- The notices that the reloads of the worker have taken up, reload by reload. -/
  answered : List (List Nat)
deriving Repr, DecidableEq

namespace Ledger

def empty : Ledger := ⟨0, [], none, []⟩

def enter (ledger : Ledger) (coordinator : Coordinator) (act : Step) : Ledger :=
  if coordinator.isNotice act then
    if coordinator.reloader.worker = some .waiting then
      { ledger with given := ledger.given + 1, woke := some ledger.given }
    else { ledger with given := ledger.given + 1, kept := ledger.kept ++ [ledger.given] }
  else
    match act with
    | .go .look =>
        if coordinator.reloader.permit then
          { ledger with kept := [], answered := ledger.answered ++ [ledger.kept] }
        else ledger
    | .go .take =>
        { ledger with woke := none, answered := ledger.answered ++ [ledger.woke.toList] }
    | .go .quit => { ledger with kept := ledger.kept ++ ledger.woke.toList, woke := none }
    | _ => ledger

end Ledger

def Ledger.through (book : Ledger) (history : List (Coordinator × Step)) : Ledger :=
  history.foldl (fun book (coordinator, act) => book.enter coordinator act) book

/-- The ledger behind a history. -/
def ledger (history : List (Coordinator × Step)) : Ledger := Ledger.empty.through history

@[simp] theorem Ledger.through_snoc (book : Ledger) (history : List (Coordinator × Step))
    (coordinator : Coordinator) (act : Step) :
    book.through (history ++ [(coordinator, act)]) =
      (book.through history).enter coordinator act := by
  simp [through]

@[simp] theorem Ledger.through_cons (book : Ledger) (entry : Coordinator × Step)
    (history : List (Coordinator × Step)) :
    book.through (entry :: history) = (book.enter entry.1 entry.2).through history :=
  rfl

theorem ledger_append (earlier later : List (Coordinator × Step)) :
    ledger (earlier ++ later) = (ledger earlier).through later := by
  simp [ledger, Ledger.through]

/-- The places of a ledger are those of a coordinator, and hold each notice once. -/
structure Ledger.Agrees (ledger : Ledger) (coordinator : Coordinator) : Prop where
  kept : coordinator.reloader.permit = true ↔ ledger.kept ≠ []
  woke : coordinator.reloader.worker = some .notified ↔ ledger.woke.isSome = true
  waiting : coordinator.reloader.worker = some .waiting → ledger.kept = []
  nonempty : ∀ batch ∈ ledger.answered, batch ≠ []
  once : (ledger.answered.flatten ++ ledger.woke.toList ++ ledger.kept).Perm
    (List.range ledger.given)

variable {before after : Coordinator} {act : Step} {book : Ledger}

theorem exists_of_endsReload (ends : before.endsReload act = true) :
    ∃ outcome, before.reloader.mark? act.inner = some (.ended outcome) := by
  obtain ⟨mark, marked, isEnded⟩ := (Option.any_eq_true _ _).mp ends
  cases mark with
  | ended outcome => exact ⟨outcome, marked⟩
  | _ => cases isEnded

namespace Ledger

theorem Agrees.ofSource (source : Source) : empty.Agrees (Coordinator.ofSource source) where
  kept := by simp [empty, Coordinator.ofSource, Reloader.ofSource]
  woke := by simp [empty, Coordinator.ofSource, Reloader.ofSource]
  waiting := fun _ => rfl
  nonempty := nofun
  once := .nil

/-- What a step does to a ledger, and to the worker and the notice that is kept. -/
inductive Entry (book : Ledger) (before : Coordinator) (act : Step) (after : Coordinator) :
    Ledger → Prop where
  | aside (other : before.takesUp act = false)
      (worker : after.reloader.worker = before.reloader.worker)
      (permit : after.reloader.permit = before.reloader.permit) : Entry book before act after book
  | spawned (other : before.takesUp act = false) (idle : before.reloader.worker = none)
      (worker : after.reloader.worker = some .looking)
      (permit : after.reloader.permit = before.reloader.permit) : Entry book before act after book
  | waits (other : before.takesUp act = false) (looking : before.reloader.worker = some .looking)
      (nothing : before.reloader.permit = false) (worker : after.reloader.worker = some .waiting)
      (permit : after.reloader.permit = before.reloader.permit) : Entry book before act after book
  | quits (other : before.takesUp act = false) (stopping : before.reloader.stopping = true)
      (worker : after.reloader.worker = none)
      (permit : after.reloader.permit = before.reloader.permit)
      (idle : before.reloader.worker = some .looking ∨ before.reloader.worker = some .waiting) :
      Entry book before act after book
  | ended (ends : before.endsReload act = true) (other : before.takesUp act = false)
      (reloading : before.reloader.worker = some .reloading)
      (worker : after.reloader.worker = some .looking)
      (permit : after.reloader.permit = before.reloader.permit) : Entry book before act after book
  | woke (isNotice : before.isNotice act = true) (other : before.takesUp act = false)
      (waiting : before.reloader.worker = some .waiting)
      (worker : after.reloader.worker = some .notified)
      (permit : after.reloader.permit = before.reloader.permit) :
      Entry book before act after { book with given := book.given + 1, woke := some book.given }
  | kept (isNotice : before.isNotice act = true) (other : before.takesUp act = false)
      (busy : before.reloader.worker ≠ some .waiting)
      (worker : after.reloader.worker = before.reloader.worker)
      (permit : after.reloader.permit = true) :
      Entry book before act after
        { book with given := book.given + 1, kept := book.kept ++ [book.given] }
  | foundKept (takesUp : before.takesUp act = true)
      (looking : before.reloader.worker = some .looking)
      (stored : before.reloader.permit = true) (worker : after.reloader.worker = some .reloading)
      (permit : after.reloader.permit = false) :
      Entry book before act after { book with kept := [], answered := book.answered ++ [book.kept] }
  | took (takesUp : before.takesUp act = true) (notified : before.reloader.worker = some .notified)
      (worker : after.reloader.worker = some .reloading)
      (permit : after.reloader.permit = before.reloader.permit) :
      Entry book before act after
        { book with woke := none, answered := book.answered ++ [book.woke.toList] }
  | handsBack (other : before.takesUp act = false) (stopping : before.reloader.stopping = true)
      (notified : before.reloader.worker = some .notified) (worker : after.reloader.worker = none)
      (permit : after.reloader.permit = true) :
      Entry book before act after { book with kept := book.kept ++ book.woke.toList, woke := none }

theorem enter_woke (isNotice : before.isNotice act = true)
    (waiting : before.reloader.worker = some .waiting) :
    book.enter before act = { book with given := book.given + 1, woke := some book.given } := by
  unfold enter
  rw [if_pos isNotice, if_pos waiting]

theorem enter_kept (isNotice : before.isNotice act = true)
    (busy : before.reloader.worker ≠ some .waiting) :
    book.enter before act =
      { book with given := book.given + 1, kept := book.kept ++ [book.given] } := by
  unfold enter
  rw [if_pos isNotice, if_neg busy]

theorem enter_aside {inner : Reloader.Step} (isAside : before.reloader.isAside inner = true) :
    book.enter before (.go inner) = book := by
  cases inner <;> first | rfl | cases isAside | skip
  simp_all [enter, isNotice, Reloader.isNotice, Reloader.isAside]

theorem takesUp_of_unmarked (unmarked : before.reloader.mark? act.inner = none) :
    before.takesUp act = false := by
  simp [takesUp, unmarked]

theorem entry_of_step (agrees : book.Agrees before) (orderly : before.reloader.Orderly)
    (taken : before.step act = some after) :
    Entry book before act after (book.enter before act) := by
  cases transition_of_step taken with
  | alreadyStarted free running => exact .aside rfl rfl rfl
  | spawned free idle => exact .spawned rfl idle rfl rfl
  | greeted starting noticed =>
      cases noticed with
      | woke waiting =>
          rw [enter_woke rfl waiting]
          exact .woke rfl rfl waiting rfl rfl
      | kept busy =>
          rw [enter_kept rfl busy]
          exact .kept rfl rfl busy rfl rfl
  | toldToStop free going => exact .aside rfl rfl rfl
  | left stopping gone => exact .aside rfl rfl rfl
  | @went inner after noCall moved =>
      cases Reloader.effect_of_step moved noCall with
      | aside isAside worker line =>
          rw [enter_aside isAside]
          exact .aside (takesUp_of_unmarked (Reloader.mark?_of_isAside isAside)) worker.worker
            worker.permit
      | woke isNotice waiting worker permit line =>
          have notice : before.isNotice (.go inner) = true := isNotice
          rw [enter_woke notice waiting]
          exact .woke notice (takesUp_of_unmarked (Reloader.mark?_of_isNotice isNotice)) waiting
            worker permit
      | kept isNotice busy worker permit line =>
          have notice : before.isNotice (.go inner) = true := isNotice
          rw [enter_kept notice busy]
          exact .kept notice (takesUp_of_unmarked (Reloader.mark?_of_isNotice isNotice)) busy
            worker permit
      | requested => exact .aside rfl rfl rfl
      | foundKept looking kept =>
          have entered : book.enter before (.go .look) =
              { book with kept := [], answered := book.answered ++ [book.kept] } := by
            simp [enter, isNotice, Reloader.isNotice, kept]
          have takesUp : before.takesUp (.go .look) = true := by
            simp [Coordinator.takesUp, Step.inner, Reloader.mark?, looking, kept,
              Reloader.Mark.isTaken]
          rw [entered]
          exact .foundKept takesUp looking kept rfl rfl
      | foundNothing looking nothing =>
          have entered : book.enter before (.go .look) = book := by
            simp [enter, isNotice, Reloader.isNotice, nothing]
          have other : before.takesUp (.go .look) = false :=
            takesUp_of_unmarked (by simp [Step.inner, Reloader.mark?, nothing])
          rw [entered]
          exact .waits other looking nothing rfl rfl
      | took notified =>
          have takesUp : before.takesUp (.go .take) = true := by
            simp [Coordinator.takesUp, Step.inner, Reloader.mark?, notified, Reloader.Mark.isTaken]
          exact .took takesUp notified rfl rfl
      | quit stopping idle =>
          have notNotified : before.reloader.worker ≠ some .notified := by
            rcases idle with looking | waiting <;> simp [*]
          have nobody : book.woke = none := by
            simpa using agrees.woke.not.mp notNotified
          have entered : book.enter before (.go .quit) = book := by
            obtain ⟨given, kept, woke, answered⟩ := book
            simp_all [enter, isNotice, Reloader.isNotice]
          rw [entered]
          exact .quits rfl stopping rfl rfl idle
      | quitNotified stopping notified => exact .handsBack rfl stopping notified rfl rfl
      | begun waiting free load line worker =>
          have other : before.takesUp (.go .begin) = false := by
            simp only [Coordinator.takesUp, Step.inner, Reloader.mark?]
            split <;> rfl
          exact .aside other worker.worker worker.permit
      | advanced advance underWay still further line worker =>
          rcases advance with rfl | rfl <;> exact .aside rfl worker.worker worker.permit
      | @finished party rest outcome after waiting loaded line load worker permit stopping =>
          by_cases own : party = .worker
          · have turn : before.reloader.turn = some .worker := by
              rw [Reloader.turn, waiting, own, List.head?_cons]
            rw [if_pos own] at worker
            have marked : before.reloader.mark? .finish = some (.ended outcome) := by
              simp [Reloader.mark?, Reloader.ending?, turn, loaded]
            have other : before.takesUp (.go .finish) = false := by
              simp [takesUp, Step.inner, marked, Reloader.Mark.isTaken]
            have ends : before.endsReload (.go .finish) = true := by
              simp [endsReload, Step.inner, marked, Reloader.Mark.isEnded]
            exact .ended ends other (orderly.reloading turn) worker permit
          · rw [if_neg own] at worker
            have unmarked : before.reloader.mark? .finish = none := by
              simp [Reloader.mark?, Reloader.turn, waiting, own]
            exact .aside (takesUp_of_unmarked unmarked) worker permit

theorem Agrees.of_same (agrees : book.Agrees before)
    (permit : after.reloader.permit = before.reloader.permit)
    (notified : after.reloader.worker = some .notified ↔ before.reloader.worker = some .notified)
    (waiting : after.reloader.worker = some .waiting → book.kept = []) : book.Agrees after where
  kept := by rw [permit, agrees.kept]
  woke := by rw [notified, agrees.woke]
  waiting
  nonempty := agrees.nonempty
  once := agrees.once

theorem Agrees.of_entry {entered : Ledger} (agrees : book.Agrees before)
    (entry : Entry book before act after entered) : entered.Agrees after := by
  have nobody (other : before.reloader.worker ≠ some .notified) : book.woke = none := by
    simpa using agrees.woke.not.mp other
  have once := agrees.once
  cases entry with
  | aside other worker permit =>
      exact agrees.of_same permit (by rw [worker]) fun waits => agrees.waiting (worker ▸ waits)
  | spawned other idle worker permit =>
      exact agrees.of_same permit (by simp [idle, worker]) (by simp [worker])
  | waits other looking nothing worker permit =>
      refine agrees.of_same permit (by simp [looking, worker]) fun _ => ?_
      simpa [nothing] using agrees.kept
  | quits other stopping worker permit idle =>
      have notNotified : before.reloader.worker ≠ some .notified := by
        rcases idle with looking | waiting <;> simp [*]
      exact agrees.of_same permit (by simp [worker, notNotified]) (by simp [worker])
  | ended ends other reloading worker permit =>
      exact agrees.of_same permit (by simp [reloading, worker]) (by simp [worker])
  | woke isNotice other waiting worker permit =>
      rw [nobody (by simp [waiting]), agrees.waiting waiting] at once
      refine ⟨by rw [permit, agrees.kept], by simp [worker], by simp [worker], agrees.nonempty, ?_⟩
      have all : book.answered.flatten.Perm (List.range book.given) := by simpa using once
      rw [agrees.waiting waiting, List.range_succ]
      simpa using all.append_right [book.given]
  | kept isNotice other busy worker permit =>
      refine ⟨by simp [permit], by rw [worker, agrees.woke],
        fun waits => absurd (worker ▸ waits) busy, agrees.nonempty, ?_⟩
      rw [List.range_succ, ← List.append_assoc]
      exact once.append_right [book.given]
  | foundKept takesUp looking stored worker permit =>
      have some := agrees.kept.mp stored
      rw [nobody (by simp [looking])] at once
      refine ⟨by simp [permit], by simp [worker, nobody, looking], by simp [worker], ?_, ?_⟩
      · exact List.forall_mem_append.mpr ⟨agrees.nonempty, by simpa using some⟩
      · simpa [nobody, looking] using once
  | took takesUp notified worker permit =>
      obtain ⟨notice, woke⟩ := Option.isSome_iff_exists.mp (agrees.woke.mp notified)
      rw [woke] at once
      refine ⟨by rw [permit, agrees.kept], by simp [worker], by simp [worker], ?_, ?_⟩
      · exact List.forall_mem_append.mpr ⟨agrees.nonempty, by simp [woke]⟩
      · simpa [woke] using once
  | handsBack other stopping notified worker permit =>
      obtain ⟨notice, woke⟩ := Option.isSome_iff_exists.mp (agrees.woke.mp notified)
      rw [woke] at once
      refine ⟨by simp [permit, woke], by simp [worker], by simp [worker], agrees.nonempty, ?_⟩
      refine List.Perm.trans ?_ once
      simpa [woke] using
        (List.perm_append_singleton notice book.kept).append_left book.answered.flatten

end Ledger

variable {source : Source} {initial final : Coordinator} {history : List (Coordinator × Step)}

structure Booked (book : Ledger) (coordinator : Coordinator) : Prop where
  coordinated : coordinator.Coordinated
  agrees : book.Agrees coordinator

theorem Booked.of_step (booked : Booked book before) (taken : before.step act = some after) :
    Ledger.Entry book before act after (book.enter before act) ∧
      Booked (book.enter before act) after :=
  have entry := Ledger.entry_of_step booked.agrees booked.coordinated.orderly taken
  ⟨entry, booked.coordinated.of_step taken, booked.agrees.of_entry entry⟩

theorem Booked.of_run (booked : Booked book initial) (run : Trace step initial history final) :
    Booked (book.through history) final := by
  induction run with
  | nil => exact booked
  | snoc earlier taken ih =>
      rw [Ledger.through_snoc]
      exact (ih.of_step taken).2

theorem booked_ofSource (source : Source) : Booked .empty (ofSource source) :=
  ⟨coordinated_ofSource source, .ofSource source⟩

def notices (history : List (Coordinator × Step)) : Nat :=
  history.countP fun entry => entry.1.isNotice entry.2

def takenUp (history : List (Coordinator × Step)) : Nat :=
  history.countP fun entry => entry.1.takesUp entry.2

def begun (history : List (Coordinator × Step)) : Nat :=
  (seen Reloader.mark? (reloads history)).countP Reloader.Mark.isBegun

theorem notices_snoc (history : List (Coordinator × Step)) (coordinator : Coordinator)
    (act : Step) :
    notices (history ++ [(coordinator, act)]) =
      notices history + if coordinator.isNotice act = true then 1 else 0 := by
  rw [notices, notices, List.countP_append, List.countP_singleton]

theorem takenUp_snoc (history : List (Coordinator × Step)) (coordinator : Coordinator)
    (act : Step) :
    takenUp (history ++ [(coordinator, act)]) =
      takenUp history + if coordinator.takesUp act = true then 1 else 0 := by
  rw [takenUp, takenUp, List.countP_append, List.countP_singleton]

theorem takenUp_eq (history : List (Coordinator × Step)) :
    takenUp history = (seen Reloader.mark? (reloads history)).countP Reloader.Mark.isTaken := by
  induction history using List.reverseRecOn with
  | nil => rfl
  | append_singleton earlier entry ih =>
      rw [takenUp_snoc, reloads_snoc, seen_snoc, List.countP_append, ih, takesUp]
      cases entry.1.reloader.mark? entry.2.inner <;> simp [List.countP_singleton]

theorem begun_le_takenUp (run : Run source history final) : begun history ≤ takenUp history := by
  obtain ⟨outcomes, marks⟩ := marks_of_run run
  have whole : (outcomes.flatMap Reloader.Mark.reload).countP Reloader.Mark.isBegun =
      (outcomes.flatMap Reloader.Mark.reload).countP Reloader.Mark.isTaken := by
    rw [List.countP_flatMap, List.countP_flatMap]
    rfl
  have last : final.reloader.unfinished.countP Reloader.Mark.isBegun ≤
      final.reloader.unfinished.countP Reloader.Mark.isTaken := by
    unfold Reloader.unfinished
    split
    · split <;> decide
    · exact Nat.le_refl 0
  rw [begun, takenUp_eq, marks, List.countP_append, List.countP_append, whole]
  exact Nat.add_le_add_left last _

theorem given_enter (book : Ledger) (coordinator : Coordinator) (act : Step) :
    (book.enter coordinator act).given =
      book.given + if coordinator.isNotice act = true then 1 else 0 := by
  unfold Ledger.enter
  split
  · split <;> rfl
  · split <;> first | rfl | (split <;> rfl)

theorem given_through (book : Ledger) (history : List (Coordinator × Step)) :
    (book.through history).given = book.given + notices history := by
  induction history using List.reverseRecOn with
  | nil => rfl
  | append_singleton earlier entry ih =>
      rw [Ledger.through_snoc, given_enter, ih, notices_snoc, Nat.add_assoc]

theorem given_ledger (history : List (Coordinator × Step)) :
    (ledger history).given = notices history := by
  rw [ledger, given_through]
  simp [Ledger.empty]

theorem length_answered (booked : Booked book initial) (run : Trace step initial history final) :
    (book.through history).answered.length = book.answered.length + takenUp history := by
  induction run with
  | nil => rfl
  | @snoc history before after act earlier taken ih =>
      obtain ⟨entry, -⟩ := (booked.of_run earlier).of_step taken
      rw [Ledger.through_snoc, takenUp_snoc, ← Nat.add_assoc, ← ih]
      generalize (book.through history).enter before act = entered at entry
      cases entry <;> simp [*]

theorem length_ledger (run : Run source history final) :
    (ledger history).answered.length = takenUp history := by
  rw [ledger, length_answered (booked_ofSource source) run]
  simp [Ledger.empty]

/-- The number of reloads that the worker can still take up without a further notice. -/
def pending (coordinator : Coordinator) : Nat :=
  coordinator.reloader.permit.toNat + if coordinator.reloader.worker = some .notified then 1 else 0

theorem Ledger.Entry.pending_le {entered : Ledger} (entry : Entry book before act after entered) :
    (if before.takesUp act = true then 1 else 0) + pending after ≤
      pending before + if before.isNotice act = true then 1 else 0 := by
  cases entry with
  | aside other worker permit => simp [pending, other, worker, permit]
  | spawned other idle worker permit => simp [pending, other, idle, worker, permit]
  | waits other looking nothing worker permit => simp [pending, other, looking, worker, permit]
  | quits other stopping worker permit idle =>
      rcases idle with looking | waiting <;> simp [pending, *]
  | ended ends other reloading worker permit => simp [pending, other, reloading, worker, permit]
  | woke isNotice other waiting worker permit =>
      simp [pending, isNotice, other, waiting, worker, permit]
  | kept isNotice other busy worker permit =>
      simp [pending, isNotice, other, worker, permit]
      omega
  | foundKept takesUp looking stored worker permit =>
      simp [pending, takesUp, stored, looking, worker, permit]
  | took takesUp notified worker permit =>
      simp [pending, takesUp, notified, worker, permit]
      omega
  | handsBack other stopping notified worker permit =>
      simp [pending, other, notified, worker, permit]
      omega

/-- A notice is good for one reload at most. -/
theorem takenUp_le (booked : Booked book initial) (run : Trace step initial history final) :
    takenUp history + pending final ≤ pending initial + notices history := by
  induction run with
  | nil => simp [takenUp, notices]
  | @snoc history before after act earlier taken ih =>
      obtain ⟨entry, -⟩ := (booked.of_run earlier).of_step taken
      have further := entry.pending_le
      rw [takenUp_snoc, notices_snoc]
      omega

end Coordinator

end Audience
