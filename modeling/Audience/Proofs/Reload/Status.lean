import Mathlib.Data.List.DropRight
import Mathlib.Data.List.Induction
import Audience.Reload.Health

namespace Audience

/-! What the status of a cache tells of the calls that were made on it.

`Cache.Reflects` reads every part of a cache off the calls as a whole.  The parts are updated by
three operations that may come in any order; each of them keeps all of it, and a new cache begins
with it, so exactly one cache reflects a sequence of calls.
-/

namespace HealthState

variable {hasContent : Bool} {failures : Nat}

theorem judge_eq_unhealthy_iff : judge hasContent failures = .unhealthy ↔ ¬hasContent = true := by
  grind [judge]

theorem judge_eq_degraded_iff :
    judge hasContent failures = .degraded ↔ hasContent = true ∧ failures ≠ 0 := by
  grind [judge]

theorem judge_eq_healthy_iff :
    judge hasContent failures = .healthy ↔ hasContent = true ∧ failures = 0 := by
  grind [judge]

end HealthState

namespace Cache

/-- What a load tells a cache. -/
inductive Call where
  | beginLoad
  | publish (catalog : Catalog)
  | recordFailure (message : String)

namespace Call

def perform (cache : Cache) : Call → Cache
  | beginLoad => cache.beginLoad
  | publish catalog => cache.publish catalog
  | recordFailure message => cache.recordFailure message

def published? : Call → Option Catalog
  | publish catalog => some catalog
  | _ => none

def failure? : Call → Option String
  | recordFailure message => some message
  | _ => none

/-- The state in which a call leaves the loading. -/
def state : Call → LoadState
  | publish _ => .ready
  | _ => .loading

end Call

/-- A new cache after some calls. -/
def after (calls : List Call) : Cache :=
  calls.foldl Call.perform empty

/-- All that has been published, in order. -/
def published (calls : List Call) : List Catalog :=
  calls.filterMap Call.published?

/-- The calls behind the last publication. -/
def sincePublished (calls : List Call) : List Call :=
  calls.rtakeWhile fun call => call.published?.isNone

/-- The failures since something was published last, in order. -/
def failures (calls : List Call) : List String :=
  (sincePublished calls).filterMap Call.failure?

/-- A cache tells what the calls have been. -/
structure Reflects (calls : List Call) (cache : Cache) : Prop where
  generation : cache.status.generation = (published calls).length
  /-- The content is what was published last, under the number of publications. -/
  current : cache.current =
    (published calls).getLast?.map (Snapshot.mk (published calls).length)
  state : cache.status.state = (calls.getLast?.map Call.state).getD .uninitialized
  failures : cache.status.failures = (failures calls).length
  lastError : cache.status.lastError = (Cache.failures calls).getLast?
  everSucceeded : cache.status.everSucceeded = true ↔ published calls ≠ []

/-- A judgement on the health fits the calls. -/
structure Judges (calls : List Call) (health : HealthState) : Prop where
  unhealthy : health = .unhealthy ↔ published calls = []
  degraded : health = .degraded ↔ published calls ≠ [] ∧ failures calls ≠ []
  healthy : health = .healthy ↔ published calls ≠ [] ∧ failures calls = []

variable {calls : List Call} {cache : Cache}

theorem after_concat (calls : List Call) (call : Call) :
    after (calls ++ [call]) = call.perform (after calls) := by
  simp [after]

theorem published_concat (calls : List Call) (call : Call) :
    published (calls ++ [call]) = published calls ++ call.published?.toList := by
  cases named : call.published? <;> simp [published, named]

theorem failures_concat_of_unpublished {call : Call} (unpublished : call.published? = none) :
    failures (calls ++ [call]) = failures calls ++ call.failure?.toList := by
  rw [failures, sincePublished, List.rtakeWhile_concat_pos _ _ _ (by simp [unpublished]),
    List.filterMap_append]
  cases failed : call.failure? <;> simp [failures, sincePublished, failed]

theorem failures_concat_publish (calls : List Call) (catalog : Catalog) :
    failures (calls ++ [.publish catalog]) = [] := by
  rw [failures, sincePublished, List.rtakeWhile_concat_neg _ _ _ (by simp [Call.published?]),
    List.filterMap_nil]

theorem Reflects.empty : Reflects [] empty where
  generation := rfl
  current := rfl
  state := rfl
  failures := rfl
  lastError := rfl
  everSucceeded := by simp [Cache.empty, LoadStatus.initial, published]

theorem Reflects.beginLoad (reflects : Reflects calls cache) :
    Reflects (calls ++ [.beginLoad]) cache.beginLoad := by
  have samePublished : published (calls ++ [.beginLoad]) = published calls := by
    simp [published_concat, Call.published?]
  have sameFailures : Cache.failures (calls ++ [.beginLoad]) = Cache.failures calls := by
    rw [failures_concat_of_unpublished rfl]
    simp [Call.failure?]
  exact
    { generation := by rw [samePublished]; exact reflects.generation
      current := by rw [samePublished]; exact reflects.current
      state := by simp [Cache.beginLoad, Call.state]
      failures := by rw [sameFailures]; exact reflects.failures
      lastError := by rw [sameFailures]; exact reflects.lastError
      everSucceeded := by rw [samePublished]; exact reflects.everSucceeded }

theorem Reflects.publish (reflects : Reflects calls cache) (catalog : Catalog) :
    Reflects (calls ++ [.publish catalog]) (cache.publish catalog) := by
  have grown : published (calls ++ [.publish catalog]) = published calls ++ [catalog] := by
    simp [published_concat, Call.published?]
  have forgotten := failures_concat_publish calls catalog
  exact
    { generation := by simp [Cache.publish, grown, reflects.generation]
      current := by simp [grown, reflects.generation]
      state := by simp [Cache.publish, Call.state]
      failures := by simp [Cache.publish, forgotten]
      lastError := by simp [Cache.publish, forgotten]
      everSucceeded := by simp [Cache.publish, grown] }

theorem Reflects.recordFailure (reflects : Reflects calls cache) (message : String) :
    Reflects (calls ++ [.recordFailure message]) (cache.recordFailure message) := by
  have samePublished : published (calls ++ [.recordFailure message]) = published calls := by
    simp [published_concat, Call.published?]
  have grown : Cache.failures (calls ++ [.recordFailure message]) =
      Cache.failures calls ++ [message] := by
    rw [failures_concat_of_unpublished rfl]
    simp [Call.failure?]
  exact
    { generation := by rw [samePublished]; exact reflects.generation
      current := by rw [samePublished]; exact reflects.current
      state := by simp [Cache.recordFailure, Call.state]
      failures := by simp [Cache.recordFailure, grown, reflects.failures]
      lastError := by simp [Cache.recordFailure, grown]
      everSucceeded := by rw [samePublished]; exact reflects.everSucceeded }

theorem reflects_after (calls : List Call) : Reflects calls (after calls) := by
  -- From the end: the last call meets a cache that reflects all calls before it.
  induction calls using List.reverseRecOn with
  | nil => exact .empty
  | append_singleton calls call ih =>
      rw [after_concat]
      cases call with
      | beginLoad => exact ih.beginLoad
      | publish catalog => exact ih.publish catalog
      | recordFailure message => exact ih.recordFailure message

/-- The calls leave nothing of a cache open. -/
theorem Reflects.unique {other : Cache} (reflects : Reflects calls cache)
    (otherReflects : Reflects calls other) : cache = other := by
  have everSucceeded : cache.status.everSucceeded = other.status.everSucceeded :=
    Bool.eq_iff_iff.mpr (reflects.everSucceeded.trans otherReflects.everSucceeded.symm)
  have generation := reflects.generation.trans otherReflects.generation.symm
  have current := reflects.current.trans otherReflects.current.symm
  have state := reflects.state.trans otherReflects.state.symm
  have failures := reflects.failures.trans otherReflects.failures.symm
  have lastError := reflects.lastError.trans otherReflects.lastError.symm
  obtain ⟨_, _, _, _, _, _⟩ := cache
  obtain ⟨_, _, _, _, _, _⟩ := other
  cases everSucceeded
  cases generation
  cases current
  cases state
  cases failures
  cases lastError
  rfl

theorem Reflects.current_eq_none_iff (reflects : Reflects calls cache) :
    cache.current = none ↔ cache.status.generation = 0 := by
  rw [reflects.current, reflects.generation]
  simp

theorem Reflects.judges (reflects : Reflects calls cache) : Judges calls cache.health.state := by
  have served : cache.current.isSome = true ↔ published calls ≠ [] := by
    rw [reflects.current]
    simp
  have failed : cache.status.failures = 0 ↔ Cache.failures calls = [] := by
    rw [reflects.failures, List.length_eq_zero_iff]
  exact
    { unhealthy := by rw [Cache.health, HealthState.judge_eq_unhealthy_iff, served, not_not]
      degraded := by
        simp only [Cache.health, HealthState.judge_eq_degraded_iff, served, ne_eq, failed]
      healthy := by rw [Cache.health, HealthState.judge_eq_healthy_iff, served, failed] }

/-- After any calls the status tells what the calls have been, and no other cache would; content
is there from the first publication on, and the health is judged by what came behind the last. -/
theorem reflects_iff_eq_after (calls : List Call) (cache : Cache) :
    (Reflects calls cache ↔ cache = after calls) ∧
      ((after calls).current = none ↔ (after calls).status.generation = 0) ∧
      Judges calls (after calls).health.state := by
  have reflects := reflects_after calls
  refine ⟨⟨fun told => told.unique reflects, ?_⟩, reflects.current_eq_none_iff, reflects.judges⟩
  intro same
  exact same ▸ reflects

end Cache

end Audience
