namespace Audience

/-! Runs of anything that changes by single steps, and what is to be seen of them. -/

/-- What is to be seen of the steps of a history, in order. -/
def seen {State Act Sight : Type} (look : State → Act → Option Sight)
    (history : List (State × Act)) : List Sight :=
  history.filterMap fun (state, act) => look state act

section

variable {State Act Sight : Type} (look : State → Act → Option Sight)

@[simp] theorem seen_nil : seen look [] = [] := rfl

@[simp] theorem seen_cons (state : State) (act : Act) (later : List (State × Act)) :
    seen look ((state, act) :: later) = (look state act).toList ++ seen look later := by
  cases found : look state act <;> simp [seen, found]

@[simp] theorem seen_append (history later : List (State × Act)) :
    seen look (history ++ later) = seen look history ++ seen look later :=
  List.filterMap_append

theorem seen_snoc (history : List (State × Act)) (state : State) (act : Act) :
    seen look (history ++ [(state, act)]) = seen look history ++ (look state act).toList := by
  simp

end

/-- A run: the steps taken, each behind the state that it was taken in, and where they lead. -/
inductive Trace {State Act : Type} (step : State → Act → Option State) (initial : State) :
    List (State × Act) → State → Prop where
  | nil : Trace step initial [] initial
  | snoc {history : List (State × Act)} {before after : State} {act : Act}
      (earlier : Trace step initial history before) (taken : step before act = some after) :
      Trace step initial (history ++ [(before, act)]) after

namespace Trace

variable {State Act : Type} {step : State → Act → Option State} {initial : State}

theorem cons {next final : State} {act : Act} {history : List (State × Act)}
    (taken : step initial act = some next) (later : Trace step next history final) :
    Trace step initial ((initial, act) :: history) final := by
  induction later with
  | nil => exact .snoc .nil taken
  | snoc _ last ih => exact .snoc ih last

theorem append {middle final : State} {history later : List (State × Act)}
    (run : Trace step initial history middle) (continued : Trace step middle later final) :
    Trace step initial (history ++ later) final := by
  induction continued with
  | nil =>
      rw [List.append_nil]
      exact run
  | snoc _ taken ih =>
      rw [← List.append_assoc]
      exact .snoc ih taken

/-- A run in two parts. -/
theorem split {final : State} {whole earlier later : List (State × Act)}
    (run : Trace step initial whole final) (parts : whole = earlier ++ later) :
    ∃ middle, Trace step initial earlier middle ∧ Trace step middle later final := by
  induction run generalizing later with
  | nil =>
      obtain ⟨rfl, rfl⟩ := List.append_eq_nil_iff.mp parts.symm
      exact ⟨initial, .nil, .nil⟩
  | @snoc history before after act run taken ih =>
      rcases List.eq_nil_or_concat later with rfl | ⟨front, entry, rfl⟩
      · rw [List.append_nil] at parts
        exact ⟨after, parts ▸ .snoc run taken, .nil⟩
      · rw [List.concat_eq_append, ← List.append_assoc] at parts
        obtain ⟨rfl, same⟩ := List.append_inj' parts rfl
        cases same
        obtain ⟨middle, first, second⟩ := ih rfl
        exact ⟨middle, first, by simpa using .snoc second taken⟩

theorem eq_of_nil {final : State} {whole : List (State × Act)}
    (run : Trace step initial whole final) (empty : whole = []) : final = initial := by
  cases run with
  | nil => rfl
  | snoc earlier taken => simp at empty

/-- A run that has taken a first step. -/
theorem uncons {final state : State} {act : Act} {whole later : List (State × Act)}
    (run : Trace step initial whole final) (parts : whole = (state, act) :: later) :
    state = initial ∧ ∃ next, step initial act = some next ∧ Trace step next later final := by
  induction run generalizing later with
  | nil => cases parts
  | @snoc history before after last earlier taken ih =>
      cases history with
      | nil =>
          cases parts
          cases earlier.eq_of_nil rfl
          exact ⟨rfl, after, taken, .nil⟩
      | cons entry front =>
          obtain ⟨rfl, rfl⟩ := List.cons.inj parts
          obtain ⟨same, next, first, rest⟩ := ih rfl
          exact ⟨same, next, first, .snoc rest taken⟩

/-- A run passes through the states of its history. -/
theorem passes {final state : State} {act : Act} {whole earlier later : List (State × Act)}
    (run : Trace step initial whole final) (parts : whole = earlier ++ (state, act) :: later) :
    Trace step initial earlier state ∧
      ∃ next, step state act = some next ∧ Trace step next later final := by
  obtain ⟨middle, first, rest⟩ := run.split parts
  obtain ⟨rfl, continued⟩ := rest.uncons rfl
  exact ⟨first, continued⟩

/-- What a run has taken it could take. -/
theorem taken_of_mem {final state : State} {act : Act} {history : List (State × Act)}
    (run : Trace step initial history final) (member : (state, act) ∈ history) :
    ∃ next, step state act = some next := by
  induction run with
  | nil => cases member
  | snoc earlier taken ih =>
      rcases List.mem_append.mp member with old | new
      · exact ih old
      · cases List.mem_singleton.mp new
        exact ⟨_, taken⟩

/-- Takes steps one after another; nothing when one of them is not possible. -/
def execute (step : State → Act → Option State) (initial : State) :
    List Act → Option (List (State × Act) × State)
  | [] => some ([], initial)
  | act :: rest =>
      (step initial act).bind fun next =>
        (execute step next rest).map fun (history, final) => ((initial, act) :: history, final)

theorem of_execute {acts : List Act} {run : List (State × Act) × State}
    (executed : execute step initial acts = some run) : Trace step initial run.1 run.2 := by
  induction acts generalizing initial run with
  | nil =>
      cases executed
      exact .nil
  | cons act rest ih =>
      obtain ⟨next, taken, continued⟩ := Option.bind_eq_some_iff.mp executed
      obtain ⟨later, restExecuted, same⟩ := Option.map_eq_some_iff.mp continued
      cases same
      exact .cons taken (ih restExecuted)

theorem extend {middle : State} {history : List (State × Act)}
    {later : List (State × Act) × State} (run : Trace step initial history middle)
    (acts : List Act) (executed : execute step middle acts = some later) :
    Trace step initial (history ++ later.1) later.2 :=
  run.append (of_execute executed)

end Trace

end Audience
