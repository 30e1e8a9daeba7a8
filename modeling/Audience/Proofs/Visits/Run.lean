import Audience.Proofs.Polling.Run
import Audience.Proofs.Reload.Accounts
import Audience.Service.Lobby

namespace Audience

/-! Runs of a service together with everybody who asks it for content.

A run of a lobby holds a run of its service, so what is proved about reloaders can be used here.
-/

namespace Service

variable {before after : Service} {step : Step} {ticket : Nat}

theorem waiting_of_step (taken : before.step step = some after) (own : step.isVisit = false) :
    after.waiting = before.waiting := by
  cases step with
  | ask ticket => cases own
  | answer ticket => cases own
  | giveUp ticket => cases own
  | check =>
      cases taken
      rfl
  | _ =>
      cases transition_of_step taken with
      | stoodAside aside => cases aside
      | _ => rfl

theorem current_of_unpublished (taken : before.step step = some after)
    (unpublished : ∀ catalog, before.ending? step ≠ some (.ok catalog)) :
    after.current = before.current := by
  cases transition_of_step taken with
  | reloaded moved aside => exact Reloader.current_of_unpublished moved unpublished
  | wrote moved => exact Reloader.current_of_unpublished moved (by simp [Reloader.ending?])
  | deleted moved => exact Reloader.current_of_unpublished moved (by simp [Reloader.ending?])
  | foundChanged looked different =>
      cases listening : before.reloader.listening with
      | true => exact congrArg Cache.current (Reloader.noticed_announce listening).cache
      | false => exact congrArg (·.cache.current) (Reloader.announce_deaf listening)
  | _ => rfl

theorem step_answer (there : ticket ∈ before.waiting) (content : before.current.isSome = true) :
    before.step (.answer ticket) =
      some { before with waiting := before.waiting.erase ticket } := by
  rw [current] at content
  simp [Service.step, there, content]

theorem step_giveUp (there : ticket ∈ before.waiting) (nothing : before.current = none) :
    before.step (.giveUp ticket) =
      some { before with waiting := before.waiting.erase ticket } := by
  rw [current] at nothing
  simp [Service.step, there, nothing]

end Service

namespace Lobby

inductive Transition (before : Lobby) : Step → Lobby → Prop where
  | served {inner : Service.Step} {service : Service}
      (moved : before.service.step inner = some service) (own : inner.isVisit = false) :
      Transition before (.serve inner) { before with service }
  | entered {ticket : Nat} {service : Service} (new : before.visits ticket = none)
      (moved : before.service.step (.ask ticket) = some service) :
      Transition before (.enter ticket) (before.note ticket .arrived service)
  | wentOn {ticket : Nat} {visit later : Visit} (found : before.visits ticket = some visit)
      (next : visit.next? before.cache = some later) (unserved : later.snapshot? = none) :
      Transition before (.goOn ticket) (before.note ticket later before.service)
  | answered {ticket : Nat} {visit : Visit} {snapshot : Snapshot} {service : Service}
      (found : before.visits ticket = some visit)
      (next : visit.next? before.cache = some (.served snapshot))
      (moved : before.service.step (.answer ticket) = some service) :
      Transition before (.goOn ticket) (before.note ticket (.served snapshot) service)
  | left {ticket : Nat} {visit : Visit} {service : Service}
      (found : before.visits ticket = some visit)
      (timed : (before.questions ticket).isTimed = true) (stillThere : visit.isOpen = true)
      (waits : visit.next? before.cache = none)
      (moved : before.service.step (.giveUp ticket) = some service) :
      Transition before (.leave ticket) (before.note ticket .gone service)

variable {before after : Lobby} {step : Step}

theorem transition_of_step (taken : before.step step = some after) :
    Transition before step after := by
  cases step with
  | serve inner =>
      simp only [Lobby.step] at taken
      split at taken
      · cases taken
      · next own =>
          obtain ⟨service, moved, rfl⟩ := Option.map_eq_some_iff.mp taken
          exact .served moved (Bool.eq_false_iff.mpr own)
  | enter ticket =>
      simp only [Lobby.step] at taken
      split at taken
      · cases taken
      · next new =>
          obtain ⟨service, moved, rfl⟩ := Option.map_eq_some_iff.mp taken
          exact .entered new moved
  | goOn ticket =>
      simp only [Lobby.step] at taken
      split at taken
      · next snapshot bound =>
          obtain ⟨visit, found, next⟩ := Option.bind_eq_some_iff.mp bound
          obtain ⟨service, moved, rfl⟩ := Option.map_eq_some_iff.mp taken
          exact .answered found next moved
      · next later unserved bound =>
          obtain ⟨visit, found, next⟩ := Option.bind_eq_some_iff.mp bound
          cases taken
          refine .wentOn found next ?_
          cases later with
          | served snapshot => exact absurd rfl (unserved snapshot)
          | _ => rfl
      · cases taken
  | leave ticket =>
      simp only [Lobby.step] at taken
      split at taken
      · next visit found =>
          split at taken
          · next leaves =>
              obtain ⟨service, moved, rfl⟩ := Option.map_eq_some_iff.mp taken
              rw [mayLeave, Bool.and_eq_true, Bool.and_eq_true, Option.isNone_iff_eq_none] at leaves
              exact .left found leaves.1.1 leaves.1.2 leaves.2 moved
          · cases taken
      · cases taken

/-- Whether somebody goes on by a step. -/
def Step.isOf (ticket : Nat) : Step → Bool
  | goOn other => other == ticket
  | _ => false

/-- What a step does to one of those who come. -/
inductive Moves (before : Lobby) (step : Step) (after : Lobby) (ticket : Nat) : Prop where
  | stayed (other : step.isOf ticket = false)
      (same : after.visits ticket = before.visits ticket)
  | came (new : before.visits ticket = none) (now : after.visits ticket = some .arrived)
  | wentOn {visit reached : Visit} (own : step.isOf ticket = true)
      (found : before.visits ticket = some visit)
      (next : visit.next? before.cache = some reached) (now : after.visits ticket = some reached)
  | left {visit : Visit} (found : before.visits ticket = some visit)
      (stillThere : visit.isOpen = true) (waits : visit.next? before.cache = none)
      (now : after.visits ticket = some .gone)

theorem note_visits_self {lobby : Lobby} {ticket : Nat} {visit : Visit} {service : Service} :
    (lobby.note ticket visit service).visits ticket = some visit := by
  simp [note]

theorem note_visits_of_ne {lobby : Lobby} {ticket other : Nat} {visit : Visit} {service : Service}
    (different : other ≠ ticket) :
    (lobby.note ticket visit service).visits other = lobby.visits other := by
  simp [note, different]

theorem moves_of_step (taken : before.step step = some after) (ticket : Nat) :
    Moves before step after ticket := by
  cases transition_of_step taken with
  | served moved own => exact .stayed rfl rfl
  | @entered other _ new moved =>
      by_cases same : ticket = other
      · subst same
        exact .came new note_visits_self
      · exact .stayed rfl (note_visits_of_ne same)
  | @wentOn other _ _ found next unserved =>
      by_cases same : ticket = other
      · subst same
        exact .wentOn (by simp [Step.isOf]) found next note_visits_self
      · exact .stayed (by simp [Step.isOf, Ne.symm same]) (note_visits_of_ne same)
  | @answered other _ _ _ found next moved =>
      by_cases same : ticket = other
      · subst same
        exact .wentOn (by simp [Step.isOf]) found next note_visits_self
      · exact .stayed (by simp [Step.isOf, Ne.symm same]) (note_visits_of_ne same)
  | @left other _ _ found timed stillThere waits moved =>
      by_cases same : ticket = other
      · subst same
        exact .left found stillThere waits note_visits_self
      · exact .stayed rfl (note_visits_of_ne same)

abbrev Run : Lobby → List (Lobby × Step) → Lobby → Prop := Trace Lobby.step

/-- What a load comes to that a step ends. -/
def ending? (lobby : Lobby) : Step → Option (Except LoadError Catalog)
  | .serve inner => lobby.service.ending? inner
  | _ => none

/-- The snapshot that somebody gets in a step. -/
def served? (lobby : Lobby) : Step → Option Snapshot
  | .goOn ticket =>
      ((lobby.visits ticket).bind (Visit.next? lobby.cache)).bind Visit.snapshot?
  | _ => none

theorem current_of_served? {snapshot : Snapshot} (given : served? before step = some snapshot) :
    before.current = some snapshot := by
  cases step with
  | goOn ticket =>
      obtain ⟨reached, bound, gave⟩ := Option.bind_eq_some_iff.mp given
      obtain ⟨visit, found, next⟩ := Option.bind_eq_some_iff.mp bound
      cases reached with
      | served snapshot =>
          cases gave
          exact Visit.current_of_next?_served next
      | _ => cases gave
  | _ => cases given

theorem current_of_unpublished (taken : before.step step = some after)
    (unpublished : ∀ catalog, ending? before step ≠ some (.ok catalog)) :
    after.current = before.current := by
  cases transition_of_step taken with
  | served moved own => exact Service.current_of_unpublished moved unpublished
  | entered new moved => exact Service.current_of_unpublished moved (by simp [Service.ending?])
  | wentOn found next unserved => rfl
  | answered found next moved =>
      exact Service.current_of_unpublished moved (by simp [Service.ending?])
  | left found timed stillThere waits moved =>
      exact Service.current_of_unpublished moved (by simp [Service.ending?])

theorem questions_of_step (taken : before.step step = some after) :
    after.questions = before.questions := by
  cases transition_of_step taken <;> rfl

/-- A run of a lobby is one of its service, with the same endings of loads. -/
theorem Run.serves {source : Source} {questions : Nat → Question}
    {history : List (Lobby × Step)} {final : Lobby}
    (run : Run (ofSource source questions) history final) :
    ∃ moves, Service.Run (.ofSource source) moves final.service ∧
      seen Service.ending? moves = seen ending? history := by
  induction run with
  | nil => exact ⟨[], .nil, rfl⟩
  | @snoc history before after step earlier taken ih =>
      obtain ⟨moves, inner, same⟩ := ih
      cases transition_of_step taken with
      | served moved own => exact ⟨_, inner.snoc moved, by simp [same, ending?]⟩
      | wentOn found next unserved => exact ⟨moves, inner, by simp [same, ending?]⟩
      | entered new moved =>
          exact ⟨_, inner.snoc moved, by simp [same, ending?, Service.ending?]⟩
      | answered found next moved =>
          exact ⟨_, inner.snoc moved, by simp [same, ending?, Service.ending?]⟩
      | left found timed stillThere waits moved =>
          exact ⟨_, inner.snoc moved, by simp [same, ending?, Service.ending?]⟩

end Lobby

end Audience
