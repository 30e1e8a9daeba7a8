import Audience.Proofs.Visits.Run

namespace Audience

/-! Whoever sleeps has looked before the first publication.

So the first publication ends all waiting, and nobody comes to wait behind it.
-/

namespace Lobby

variable {source : Source} {questions : Nat → Question} {history later : List (Lobby × Step)}
  {lobby before after final : Lobby} {step : Step} {ticket : Nat} {visit : Visit}
  {snapshot : Snapshot}

/-- What the cache of a lobby tells about the loads that its run has ended. -/
structure Informed (history : List (Lobby × Step)) (lobby : Lobby) : Prop where
  generation : lobby.cache.status.generation =
    ((seen ending? history).filterMap Except.toOption).length
  content : lobby.current.map Snapshot.generation =
    if lobby.cache.status.generation = 0 then none else some lobby.cache.status.generation

theorem Run.informed (run : Run (ofSource source questions) history lobby) :
    Informed history lobby := by
  obtain ⟨moves, service, sameMoves⟩ := run.serves
  obtain ⟨reloads, reloader, sameReloads⟩ := service.reloads
  have accounted := reloader.accounted
  refine { generation := ?_, content := accounted.generation_current }
  rw [← sameMoves, ← sameReloads, ← accounted.completed]
  exact accounted.generation

namespace Informed

theorem generation_of_current (informed : Informed history lobby)
    (content : lobby.current = some snapshot) :
    lobby.cache.status.generation = snapshot.generation := by
  have same := informed.content
  rw [content, Option.map_some] at same
  split at same
  · cases same
  · exact (Option.some.inj same).symm

theorem current_eq_none_iff (informed : Informed history lobby) :
    lobby.current = none ↔ lobby.cache.status.generation = 0 := by
  rw [← Option.map_eq_none_iff (f := Snapshot.generation), informed.content]
  split <;> simp_all

theorem current_eq_none_iff_unpublished (informed : Informed history lobby) :
    lobby.current = none ↔ ∀ catalog, .ok catalog ∉ seen ending? history := by
  rw [informed.current_eq_none_iff, informed.generation, List.length_eq_zero_iff,
    List.filterMap_eq_nil_iff]
  constructor
  · intro nothing catalog published
    cases nothing _ published
  · intro unpublished ending member
    cases ending with
    | ok catalog => exact absurd member (unpublished catalog)
    | error cause => rfl

theorem generation_le (informed : Informed history lobby)
    (afterwards : Informed (history ++ later) final) :
    lobby.cache.status.generation ≤ final.cache.status.generation := by
  rw [informed.generation, afterwards.generation, seen, seen, List.filterMap_append,
    List.filterMap_append, List.length_append]
  exact Nat.le_add_right _ _

end Informed

/-- Everybody who is still there is known to the service, and whoever sleeps has looked before the
first publication. -/
structure Attended (lobby : Lobby) : Prop where
  listed : ∀ ticket visit, lobby.visits ticket = some visit → visit.isOpen = true →
    ticket ∈ lobby.service.waiting
  early : ∀ ticket publications, lobby.visits ticket = some (.asleep publications) →
    publications = 0

namespace Attended

theorem note {service : Service} (attended : Attended before)
    (listed : visit.isOpen = true → ticket ∈ service.waiting)
    (early : ∀ publications, visit = .asleep publications → publications = 0)
    (others : ∀ other, other ≠ ticket → other ∈ before.service.waiting →
      other ∈ service.waiting) :
    Attended (before.note ticket visit service) := by
  refine { listed := ?_, early := ?_ }
  · intro other reached found stillThere
    simp only [Lobby.note] at found
    split at found
    · next same =>
        cases found
        rw [same]
        exact listed stillThere
    · next different => exact others other different (attended.listed other reached found stillThere)
  · intro other publications found
    simp only [Lobby.note] at found
    split at found
    · cases found
      exact early publications rfl
    · exact attended.early other publications found

theorem of_step (attended : Attended before) (informed : Informed history before)
    (taken : before.step step = some after) : Attended after := by
  cases transition_of_step taken with
  | served moved own =>
      have same := Service.waiting_of_step moved own
      refine { listed := ?_, early := attended.early }
      intro other reached found stillThere
      rw [same]
      exact attended.listed other reached found stillThere
  | entered new moved =>
      cases moved
      refine attended.note (by simp) (by simp) ?_
      intro other _ member
      exact List.mem_append_left _ member
  | wentOn found next unserved =>
      have stillThere := Visit.isOpen_of_next? next
      refine attended.note (fun _ => attended.listed _ _ found stillThere) ?_ (fun _ _ => id)
      -- Who falls asleep has just found nothing, so nothing has been published so far.
      rintro publications rfl
      obtain ⟨nothing, here⟩ := Visit.next?_eq_asleep next
      rw [here]
      exact informed.current_eq_none_iff.mp nothing
  | answered found next moved =>
      have there := attended.listed _ _ found (Visit.isOpen_of_next? next)
      have content := Visit.current_of_next?_served next
      rw [Service.step_answer there (Option.isSome_of_eq_some content)] at moved
      cases moved
      refine attended.note (by simp [Visit.isOpen]) (by simp) ?_
      intro other different member
      exact (List.mem_erase_of_ne different).mpr member
  | left found timed stillThere waits moved =>
      have there := attended.listed _ _ found stillThere
      have asleep := Visit.eq_asleep_of_next?_eq_none stillThere waits
      subst asleep
      have nothing := informed.current_eq_none_iff.mpr (attended.early _ _ found)
      rw [Service.step_giveUp there nothing] at moved
      cases moved
      refine attended.note (by simp [Visit.isOpen]) (by simp) ?_
      intro other different member
      exact (List.mem_erase_of_ne different).mpr member

end Attended

theorem Run.attended (run : Run (ofSource source questions) history lobby) : Attended lobby := by
  induction run with
  | nil => exact { listed := by simp [ofSource], early := by simp [ofSource] }
  | snoc earlier taken ih => exact ih.of_step (Run.informed earlier) taken

/-- Whoever has to wait has come before the first publication. -/
theorem current_of_waits (attended : Attended lobby) (informed : Informed history lobby)
    (found : lobby.visits ticket = some visit) (stillThere : visit.isOpen = true)
    (waits : visit.next? lobby.cache = none) : lobby.current = none := by
  have asleep := Visit.eq_asleep_of_next?_eq_none stillThere waits
  subst asleep
  exact informed.current_eq_none_iff.mpr (attended.early _ _ found)

theorem next?_ne_none (attended : Attended lobby) (informed : Informed history lobby)
    (content : lobby.current = some snapshot) (found : lobby.visits ticket = some visit)
    (stillThere : visit.isOpen = true) : visit.next? lobby.cache ≠ none := by
  intro waits
  have nothing := current_of_waits attended informed found stillThere waits
  rw [content] at nothing
  cases nothing

/-- With content there, everybody who is still there can go on, and comes nearer to it. -/
theorem step_goOn (attended : Attended lobby) (informed : Informed history lobby)
    (content : lobby.current = some snapshot) (found : lobby.visits ticket = some visit)
    (stillThere : visit.isOpen = true) :
    ∃ reached service, lobby.step (.goOn ticket) = some (lobby.note ticket reached service) ∧
      service.reloader = lobby.service.reloader ∧ visit.next? lobby.cache = some reached := by
  cases next : visit.next? lobby.cache with
  | none => exact absurd next (next?_ne_none attended informed content found stillThere)
  | some reached =>
      have bound : (lobby.visits ticket).bind (Visit.next? lobby.cache) = some reached := by
        rw [found, Option.bind_some, next]
      have there := attended.listed _ _ found stillThere
      cases reached with
      | served snapshot =>
          have answered := Service.step_answer there (Option.isSome_of_eq_some content)
          refine
            ⟨.served snapshot,
              { lobby.service with waiting := lobby.service.waiting.erase ticket }, ?_, rfl, rfl⟩
          simp only [Lobby.step, bound, answered, Option.map_some]
      | _ => exact ⟨_, lobby.service, by simp only [Lobby.step, bound], rfl, rfl⟩

end Lobby

end Audience
