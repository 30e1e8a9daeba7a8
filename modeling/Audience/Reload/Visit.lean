import Audience.Reload.Cache

namespace Audience

/-! How those who ask for content come by it.

Everybody looks once without waiting.  Who finds nothing has themselves told of publications and
looks again; who finds nothing then sleeps until there has been another publication since that look.
-/

/-- How far somebody who asks for content has come. -/
inductive Visit where
  | arrived
  /-- Has looked and found nothing. -/
  | turnedAway
  /-- Is told of publications, and about to look. -/
  | listening
  /-- Has looked after so many publications and found nothing. -/
  | asleep (publications : Nat)
  | served (snapshot : Snapshot)
  /-- Went away without content. -/
  | gone
deriving Repr

namespace Visit

/-- Whether somebody is still there for content. -/
def isOpen : Visit → Bool
  | served _ | gone => false
  | _ => true

/-- The content that somebody got. -/
def snapshot? : Visit → Option Snapshot
  | served snapshot => some snapshot
  | _ => none

/-- The next thing that somebody does on their own; nothing when they have to wait or are done. -/
def next? (cache : Cache) : Visit → Option Visit
  | arrived => some (cache.current.elim turnedAway served)
  | turnedAway => some listening
  | listening => some (cache.current.elim (asleep cache.status.generation) served)
  | asleep publications =>
      if cache.status.generation = publications then none else some listening
  | served _ | gone => none

def goOn (cache : Cache) : Nat → Visit → Visit
  | 0, visit => visit
  | steps + 1, visit => (visit.next? cache).elim visit (goOn cache steps)

/-- Goes on until they have to wait or are done, while the cache stays as it is.  Nobody has more
than three things to do until then. -/
def settle (cache : Cache) (visit : Visit) : Visit :=
  visit.goOn cache 3

variable {cache : Cache} {snapshot : Snapshot} {visit : Visit}

theorem next?_asleep_eq_none_iff {publications : Nat} :
    (asleep publications).next? cache = none ↔ cache.status.generation = publications := by
  simp [next?]

/-- Three things are enough. -/
theorem next?_settle (cache : Cache) (visit : Visit) : (visit.settle cache).next? cache = none := by
  cases visit with
  | asleep publications =>
      by_cases same : cache.status.generation = publications
      · simp [settle, goOn, next?, same]
      · cases content : cache.current <;> simp [settle, goOn, next?, same, content]
  | _ => cases content : cache.current <;> simp [settle, goOn, next?, content]

theorem isOpen_of_next? {later : Visit} (next : visit.next? cache = some later) :
    visit.isOpen = true := by
  cases visit with
  | served snapshot => cases next
  | gone => cases next
  | _ => rfl

theorem current_of_next?_served (next : visit.next? cache = some (served snapshot)) :
    cache.current = some snapshot := by
  cases visit with
  | arrived => cases content : cache.current <;> simp_all [next?]
  | listening => cases content : cache.current <;> simp_all [next?]
  | _ => simp [next?] at next

/-- Somebody falls asleep who has just found nothing. -/
theorem next?_eq_asleep {publications : Nat} (next : visit.next? cache = some (asleep publications)) :
    cache.current = none ∧ publications = cache.status.generation := by
  cases visit with
  | arrived => cases content : cache.current <;> simp [next?, content] at next
  | listening => cases content : cache.current <;> simp_all [next?]
  | _ => simp [next?] at next

theorem next?_ne_gone : visit.next? cache ≠ some gone := by
  cases visit with
  | arrived => cases content : cache.current <;> simp [next?, content]
  | listening => cases content : cache.current <;> simp [next?, content]
  | _ => simp [next?]

theorem eq_asleep_of_next?_eq_none (stillThere : visit.isOpen = true)
    (waits : visit.next? cache = none) : visit = asleep cache.status.generation := by
  cases visit with
  | asleep publications => rw [next?_asleep_eq_none_iff.mp waits]
  | served snapshot => cases stillThere
  | gone => cases stillThere
  | _ => cases waits

/-- How many steps somebody is away from content that is there. -/
def remaining : Visit → Nat
  | arrived | listening => 1
  | turnedAway | asleep _ => 2
  | served _ | gone => 0

theorem remaining_le (visit : Visit) : visit.remaining ≤ 2 := by
  cases visit <;> simp [remaining]

theorem remaining_eq_zero_iff : visit.remaining = 0 ↔ visit.isOpen = false := by
  cases visit <;> simp [remaining, isOpen]

theorem eq_served_of_next? {later : Visit} (content : cache.current = some snapshot)
    (next : visit.next? cache = some later) (done : later.isOpen = false) :
    later = served snapshot := by
  cases later with
  | served found => rw [Option.some.inj ((current_of_next?_served next).symm.trans content)]
  | gone => exact absurd next next?_ne_gone
  | _ => cases done

theorem remaining_of_next? {later : Visit} (content : cache.current = some snapshot)
    (next : visit.next? cache = some later) : later.remaining + 1 = visit.remaining := by
  cases visit with
  | asleep publications =>
      simp only [next?] at next
      split at next
      · cases next
      · cases next
        rfl
  | served snapshot => cases next
  | gone => cases next
  | _ =>
      simp only [next?, content, Option.elim_some] at next
      cases next
      rfl

/-- Content that is there is found, unless somebody sleeps on although it has come. -/
theorem settle_eq_served (content : cache.current = some snapshot) (stillThere : visit.isOpen = true)
    (awake : visit.next? cache ≠ none) : visit.settle cache = served snapshot := by
  cases visit with
  | arrived => simp [settle, goOn, next?, content]
  | turnedAway => simp [settle, goOn, next?, content]
  | listening => simp [settle, goOn, next?, content]
  | asleep publications =>
      have changed : cache.status.generation ≠ publications :=
        fun same => awake (next?_asleep_eq_none_iff.mpr same)
      simp [settle, goOn, next?, changed, content]
  | served snapshot => simp [isOpen] at stillThere
  | gone => simp [isOpen] at stillThere

end Visit

end Audience
