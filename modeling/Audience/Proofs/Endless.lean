import Audience.Proofs.Trace
import Mathlib.Data.Nat.Init
import Mathlib.Tactic.ByContra

namespace Audience

/-! Runs that never end.

At some times of such a run nothing happens.  A run is fair to a task when a task that stays
possible is done at last.  Fairness to the tasks of the parties is all that is asked of a schedule:
what is to happen at last is proved from a rank that falls when the task of the rank is done, and
that nothing else raises.
-/

/-- What happens at one time. -/
def Moves {State Act : Type} (step : State → Act → Option State) (before : State) :
    Option Act → State → Prop
  | none, after => after = before
  | some act, after => step before act = some after

structure Endless {State Act : Type} (step : State → Act → Option State) (initial : State) where
  state : Nat → State
  act : Nat → Option Act
  initially : state 0 = initial
  moves : ∀ time, Moves step (state time) (act time) (state (time + 1))

namespace Endless

variable {State Act : Type} {step : State → Act → Option State} {initial : State}

/-- Whether some step of a task is possible at a time. -/
def Offers (run : Endless step initial) (task : Act → Prop) (time : Nat) : Prop :=
  ∃ act, task act ∧ (step (run.state time) act).isSome = true

def Does (run : Endless step initial) (task : Act → Prop) (time : Nat) : Prop :=
  ∃ act, task act ∧ run.act time = some act

/-- A task that stays possible is done. -/
def Fair (run : Endless step initial) (task : Act → Prop) : Prop :=
  ∀ first, (∀ time ≥ first, run.Offers task time) → ∃ time ≥ first, run.Does task time

theorem next (run : Endless step initial) (time : Nat) :
    run.act time = none ∧ run.state (time + 1) = run.state time ∨
      ∃ act, run.act time = some act ∧ step (run.state time) act = some (run.state (time + 1)) := by
  have moves := run.moves time
  cases acted : run.act time with
  | none =>
      rw [acted] at moves
      exact .inl ⟨rfl, moves⟩
  | some act =>
      rw [acted] at moves
      exact .inr ⟨act, rfl, moves⟩

theorem not_does_of_none {run : Endless step initial} {task : Act → Prop} {time : Nat}
    (idle : run.act time = none) : ¬run.Does task time := by
  rintro ⟨act, -, acted⟩
  rw [idle] at acted
  cases acted

theorem not_does_of_act {run : Endless step initial} {task : Act → Prop} {time : Nat} {act : Act}
    (acted : run.act time = some act) (other : ¬task act) : ¬run.Does task time := by
  rintro ⟨done, has, same⟩
  rw [acted] at same
  cases same
  exact other has

/-- What a step preserves holds at all times. -/
theorem invariant {holds : State → Prop} (run : Endless step initial) (initially : holds initial)
    (preserved : ∀ before act after, holds before → step before act = some after → holds after)
    (time : Nat) : holds (run.state time) := by
  induction time with
  | zero => rwa [run.initially]
  | succ time ih =>
      rcases run.next time with ⟨-, same⟩ | ⟨act, -, taken⟩
      · rwa [same]
      · exact preserved _ act _ ih taken

/-- The steps taken until a time. -/
def history (run : Endless step initial) : Nat → List (State × Act)
  | 0 => []
  | time + 1 => run.history time ++ ((run.act time).map fun act => (run.state time, act)).toList

theorem history_of_none {run : Endless step initial} {time : Nat} (idle : run.act time = none) :
    run.history (time + 1) = run.history time := by
  simp [history, idle]

theorem history_of_some {run : Endless step initial} {time : Nat} {act : Act}
    (acted : run.act time = some act) :
    run.history (time + 1) = run.history time ++ [(run.state time, act)] := by
  simp [history, acted]

theorem trace (run : Endless step initial) (time : Nat) :
    Trace step initial (run.history time) (run.state time) := by
  induction time with
  | zero =>
      rw [run.initially]
      exact .nil
  | succ time ih =>
      rcases run.next time with ⟨idle, same⟩ | ⟨act, acted, taken⟩
      · rwa [history_of_none idle, same]
      · rw [history_of_some acted]
        exact .snoc ih taken

/-- Nothing happens any more. -/
def idle (step : State → Act → Option State) (initial : State) : Endless step initial :=
  ⟨fun _ => initial, fun _ => none, rfl, fun _ => rfl⟩

def after {next : State} {act : Act} (taken : step initial act = some next)
    (later : Endless step next) : Endless step initial where
  state
    | 0 => initial
    | time + 1 => later.state time
  act
    | 0 => some act
    | time + 1 => later.act time
  initially := rfl
  moves
    | 0 => by
        change step initial act = some (later.state 0)
        rw [later.initially]
        exact taken
    | time + 1 => later.moves time

theorem fair_after {next : State} {act : Act} (taken : step initial act = some next)
    {later : Endless step next} {task : Act → Prop} (fair : later.Fair task) :
    (after taken later).Fair task := by
  intro first offers
  obtain ⟨time, late, act, has, acted⟩ := fair first fun time late =>
    offers (time + 1) (Nat.le_succ_of_le late)
  exact ⟨time + 1, Nat.le_succ_of_le late, act, has, acted⟩

/-- A run to a state in which no task can go on can be followed without being unfair. -/
theorem exists_fair {history : List (State × Act)} {final : State}
    (run : Trace step initial history final) :
    ∃ later : Endless step initial,
      (∀ time act, later.act time = some act → act ∈ history.map Prod.snd) ∧
      ∀ task : Act → Prop, (∀ act, task act → step final act = none) → later.Fair task := by
  induction history generalizing initial with
  | nil =>
      cases run.eq_of_nil rfl
      refine ⟨idle step _, nofun, fun task done first offers => ?_⟩
      obtain ⟨act, has, possible⟩ := offers first (Nat.le_refl first)
      have never : step _ act = none := done act has
      simp [idle, never] at possible
  | cons entry rest ih =>
      obtain ⟨state, act⟩ := entry
      obtain ⟨rfl, next, taken, continued⟩ := run.uncons rfl
      obtain ⟨later, acts, fair⟩ := ih continued
      refine ⟨after taken later, fun time other acted => ?_, fun task done =>
        fair_after taken (fair task done)⟩
      cases time with
      | zero =>
          cases acted
          exact List.mem_cons_self
      | succ time => exact List.mem_cons_of_mem act (acts time other acted)

/-- What stays so until a goal is reached stays so to the goal, if the goal cannot be put off
without leaving a task undone that is possible all the time. -/
theorem eventually_of_fair (run : Endless step initial) {holds goal : Nat → Prop}
    {task : Act → Prop} (fair : run.Fair task)
    (waits : ∀ time, holds time → ¬goal time →
      holds (time + 1) ∧ run.Offers task time ∧ ¬run.Does task time)
    {first : Nat} (initially : holds first) : ∃ time ≥ first, holds time ∧ goal time := by
  by_contra never
  have always : ∀ time ≥ first, holds time ∧ ¬goal time := by
    intro time late
    induction time, late using Nat.le_induction with
    | base => exact ⟨initially, fun reached => never ⟨first, Nat.le_refl first, initially, reached⟩⟩
    | succ time late ih =>
        have holds := (waits time ih.1 ih.2).1
        exact ⟨holds, fun reached => never ⟨time + 1, Nat.le_succ_of_le late, holds, reached⟩⟩
  obtain ⟨time, late, done⟩ := fair first fun time late =>
    (waits time (always time late).1 (always time late).2).2.1
  exact (waits time (always time late).1 (always time late).2).2.2 done

/-- A goal is reached when, until then, a rank never rises and falls with each task that is done. -/
theorem eventually_of_rank (run : Endless step initial) {holds goal : Nat → Prop}
    (rank : Nat → Nat) (task : Nat → Act → Prop) (fair : ∀ level, run.Fair (task level))
    (progress : ∀ time, holds time → ¬goal time → holds (time + 1) ∧
      run.Offers (task (rank time)) time ∧
      (rank (time + 1) < rank time ∨
        rank (time + 1) = rank time ∧ ¬run.Does (task (rank time)) time))
    {first : Nat} (initially : holds first) : ∃ time ≥ first, holds time ∧ goal time := by
  generalize same : rank first = level
  induction level using Nat.strongRecOn generalizing first with
  | ind level ih =>
      -- The rank stays the same until it falls or the goal is reached.
      have waits : ∀ time, holds time ∧ rank time = level →
          ¬(goal time ∨ rank (time + 1) < level) →
          (holds (time + 1) ∧ rank (time + 1) = level) ∧ run.Offers (task level) time ∧
            ¬run.Does (task level) time := by
        rintro time ⟨held, rfl⟩ unreached
        obtain ⟨notGoal, notLower⟩ := not_or.mp unreached
        obtain ⟨holds, offers, lower | ⟨kept, undone⟩⟩ := progress time held notGoal
        · exact absurd lower notLower
        · exact ⟨⟨holds, kept⟩, offers, undone⟩
      obtain ⟨time, late, ⟨held, _⟩, reached | lower⟩ :=
        run.eventually_of_fair (fair level) waits ⟨initially, same⟩
      · exact ⟨time, late, held, reached⟩
      · by_cases reached : goal time
        · exact ⟨time, late, held, reached⟩
        · obtain ⟨later, after, found⟩ := ih _ lower (progress time held reached).1 rfl
          exact ⟨later, Nat.le_trans (Nat.le_succ_of_le late) after, found⟩

end Endless

end Audience
