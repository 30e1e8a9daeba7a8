import Audience.Proofs.Reload.Coordinator
import Audience.Proofs.Reload.Freshness

namespace Audience

/-! Calls that take several steps.

A reloader by itself sets up its worker in one step, and sends it a first notice in the same.  A
coordinator takes two, and others may take theirs between them.  Still a reloader can follow every
run of a coordinator, step by step in all that concerns the loads, so what is proved of the loads
of a reloader holds of those of a coordinator.
-/

namespace Reloader

/-- Whether a step is one of the loads or their source, which are no concern of the calls. -/
def Step.isShared : Step → Bool
  | .put _ _ | .replace _ | .setAvailable _ | .setDisk _ | .request _ => true
  | .begin | .probe | .read | .finish => true
  | _ => false

/-- The same loads with a worker that does something else. -/
def recast (reloader : Reloader) (worker : Option WorkerState) (permit listening : Bool) :
    Reloader :=
  { reloader with worker, permit, listening }

/-- All but the worker and its notices. -/
def bare (reloader : Reloader) : Reloader := reloader.recast none false false

/-- What a step shows of the loads. -/
def sight? (reloader : Reloader) (step : Step) : Option (Reloader × Step) :=
  if step.isShared then some (reloader.bare, step) else none

variable {before after reloader last : Reloader} {step : Step}
  {history moves : List (Reloader × Step)}

theorem sight?_of_hidden (hidden : step.isShared = false) : reloader.sight? step = none := by
  rw [sight?, hidden]
  rfl

theorem step_recast {worker : Option WorkerState} {permit listening : Bool}
    (shared : step.isShared = true) (idle : before.turn ≠ some .worker)
    (taken : before.step step = some after) :
    (before.recast worker permit listening).step step =
        some (after.recast worker permit listening) ∧
      SameWorker before after ∧ after.listening = before.listening := by
  cases transition_of_step taken with
  | put stored | replaced stored =>
      exact ⟨by simp [Reloader.step, recast, stored], ⟨rfl, rfl, rfl⟩, rfl⟩
  | switched switched => exact ⟨by simp [Reloader.step, recast, switched], ⟨rfl, rfl, rfl⟩, rfl⟩
  | diskChanged changed => exact ⟨by simp [Reloader.step, recast, changed], ⟨rfl, rfl, rfl⟩, rfl⟩
  | requested => exact ⟨rfl, ⟨rfl, rfl, rfl⟩, rfl⟩
  | begun line free => exact ⟨by simp [Reloader.step, recast, line, free], ⟨rfl, rfl, rfl⟩, rfl⟩
  | probed begun available =>
      exact ⟨by simp [Reloader.step, recast, begun, available], ⟨rfl, rfl, rfl⟩, rfl⟩
  | unavailable begun unavailable =>
      exact ⟨by simp [Reloader.step, recast, begun, unavailable], ⟨rfl, rfl, rfl⟩, rfl⟩
  | read probed => exact ⟨by simp [Reloader.step, recast, probed], ⟨rfl, rfl, rfl⟩, rfl⟩
  | @published party rest catalog line loaded =>
      have other : party ≠ .worker := by simpa [turn, line] using idle
      refine ⟨?_, ⟨if_neg other, rfl, rfl⟩, rfl⟩
      simp [Reloader.step, recast, line, loaded, conclude, dismiss, other]
  | @failed party rest cause line loaded =>
      have other : party ≠ .worker := by simpa [turn, line] using idle
      refine ⟨?_, ⟨if_neg other, rfl, rfl⟩, rfl⟩
      simp [Reloader.step, recast, line, loaded, conclude, dismiss, other]
  | _ => cases shared

/-- A look at the steps of a reloader that finds nothing but loads. -/
structure OfLoads {α : Type} (look : Reloader → Step → Option α) : Prop where
  hidden : ∀ reloader step, step.isShared = false → look reloader step = none
  bare : ∀ reloader step, look (bare reloader) step = look reloader step

theorem OfLoads.seen_eq_filterMap {α : Type} {look : Reloader → Step → Option α}
    (ofLoads : OfLoads look) (history : List (Reloader × Step)) :
    seen look history = (seen sight? history).filterMap fun (reloader, step) =>
      look reloader step := by
  induction history with
  | nil => rfl
  | cons entry rest ih =>
      obtain ⟨reloader, step⟩ := entry
      rw [seen_cons, seen_cons, List.filterMap_append, ih]
      cases shared : step.isShared with
      | true => cases found : look reloader step <;> simp [sight?, shared, ofLoads.bare, found]
      | false => simp [sight?, shared, ofLoads.hidden reloader step shared]

theorem OfLoads.seen_eq {α : Type} {look : Reloader → Step → Option α} (ofLoads : OfLoads look)
    (sights : seen sight? moves = seen sight? history) : seen look moves = seen look history := by
  rw [ofLoads.seen_eq_filterMap, ofLoads.seen_eq_filterMap, sights]

theorem ofLoads_beginner? : OfLoads beginner? where
  hidden := fun reloader _ hidden =>
    beginner?_of_ne_begin reloader (by rintro rfl; cases hidden)
  bare := fun _ step => by cases step <;> rfl

theorem ofLoads_finisher? : OfLoads finisher? where
  hidden := fun reloader _ hidden =>
    finisher?_of_ne_finish reloader (by rintro rfl; cases hidden)
  bare := fun _ step => by cases step <;> rfl

theorem ofLoads_ending? : OfLoads ending? where
  hidden := fun reloader _ hidden =>
    ending?_of_ne_finish reloader (by rintro rfl; cases hidden)
  bare := fun _ step => by cases step <;> rfl

theorem returned?_bare (reloader : Reloader) (step : Step) :
    reloader.bare.returned? step = reloader.returned? step := by
  by_cases finish : step = .finish
  · subst finish
    rcases line : reloader.line with _ | ⟨party, rest⟩ <;>
      rcases load : reloader.load with _ | _ | _ | (cause | catalog) <;>
        simp [returned?, ending?, Reloader.step, bare, recast, line, load, conclude, dismiss]
  · rw [returned?_of_ne_finish _ finish, returned?_of_ne_finish _ finish]

theorem ofLoads_returned? : OfLoads returned? where
  hidden := fun reloader _ hidden =>
    returned?_of_ne_finish reloader (by rintro rfl; cases hidden)
  bare := returned?_bare

/-- The accounts can be read off what is seen of the loads. -/
theorem Accounted.of_sights (accounted : Accounted moves last)
    (sights : seen sight? moves = seen sight? history) (same : last.bare = reloader.bare) :
    Accounted history reloader := by
  have beginners := ofLoads_beginner?.seen_eq sights
  have finishers := ofLoads_finisher?.seen_eq sights
  have ends := ofLoads_ending?.seen_eq sights
  have returns := ofLoads_returned?.seen_eq sights
  obtain ⟨_, _, _, _, _, _, _, _, _, _, _, _⟩ := last
  obtain ⟨_, _, _, _, _, _, _, _, _, _, _, _⟩ := reloader
  simp only [bare, recast, Reloader.mk.injEq] at same
  obtain ⟨-, -, -, -, -, -, rfl, rfl, rfl, rfl, rfl, rfl⟩ := same
  exact
    { serial := by rw [← beginners, ← finishers]; exact accounted.serial
      loads := by rw [← beginners]; exact accounted.loads
      completed := by rw [← ends]; exact accounted.completed
      ended := by rw [← ends]; exact accounted.ended
      balance := accounted.balance
      generation := accounted.generation
      loading := by rw [← ends]; exact accounted.loading
      ready := by rw [← ends]; exact accounted.ready
      uninitialized := by rw [← beginners]; exact accounted.uninitialized
      returned := by rw [← returns]; exact accounted.returned
      current := by rw [← returns]; exact accounted.current }

end Reloader

namespace Coordinator

/-- A coordinator, and a reloader that follows it with calls in one step. -/
inductive Matches (coordinator : Coordinator) (reloader : Reloader) : Prop where
  | same (equal : reloader = coordinator.reloader)
  /-- The notice that has woken the worker is still kept for it. -/
  | behind (notified : coordinator.reloader.worker = some .notified)
      (kept : reloader =
        coordinator.reloader.recast (some .looking) true coordinator.reloader.listening)
  /-- The worker has got no notice yet, and has not been set up. -/
  | awaiting {listening : Bool} (starting : coordinator.call = some .starting)
      (idle : coordinator.reloader.worker = some .looking ∨
        coordinator.reloader.worker = some .waiting)
      (nothing : coordinator.reloader.permit = false)
      (absent : reloader = coordinator.reloader.recast none false listening)

/-- A reloader follows to a coordinator by steps that show something of the loads. -/
def Follows (reloader : Reloader) (shown : List (Reloader × Reloader.Step)) (after : Coordinator) :
    Prop :=
  ∃ moves next, Trace Reloader.step reloader moves next ∧ Matches after next ∧
    seen Reloader.sight? moves = shown

variable {source : Source} {history : List (Coordinator × Step)} {before after final : Coordinator}
  {reloader next : Reloader} {act : Step} {inner : Reloader.Step} {call : Option Call}

theorem Matches.bare (matched : Matches before reloader) :
    reloader.bare = before.reloader.bare := by
  cases matched with
  | same equal => rw [equal]
  | behind notified kept => rw [kept]; rfl
  | awaiting starting idle nothing absent => rw [absent]; rfl

theorem Follows.stay (matched : Matches after reloader) : Follows reloader [] after :=
  ⟨[], reloader, .nil, matched, rfl⟩

theorem Follows.move (moved : reloader.step inner = some next) (hidden : inner.isShared = false)
    (later : Follows next [] after) : Follows reloader [] after := by
  obtain ⟨moves, last, run, matched, shown⟩ := later
  refine ⟨(reloader, inner) :: moves, last, .cons moved run, matched, ?_⟩
  rw [seen_cons, Reloader.sight?_of_hidden hidden, shown]
  rfl

theorem follows_of_shared (matched : Matches before reloader) (orderly : before.reloader.Orderly)
    (shared : inner.isShared = true) (moved : before.reloader.step inner = some next) :
    Follows reloader (before.reloader.sight? inner).toList ⟨next, before.call⟩ := by
  -- A worker that the reloader follows with another state is not in line.
  have idle (idle : before.reloader.worker ≠ some .reloading) :
      before.reloader.turn ≠ some .worker := fun turn => idle (orderly.reloading turn)
  have follows {state : Reloader} (taken : reloader.step inner = some state)
      (still : Matches ⟨next, before.call⟩ state) :
      Follows reloader (before.reloader.sight? inner).toList ⟨next, before.call⟩ := by
    refine ⟨_, state, .snoc .nil taken, still, ?_⟩
    rw [seen_snoc, Reloader.sight?, Reloader.sight?, matched.bare]
    rfl
  cases matched with
  | same equal => exact follows (equal ▸ moved) (.same rfl)
  | behind notified kept =>
      subst kept
      obtain ⟨taken, worker, listening⟩ :=
        Reloader.step_recast shared (idle (by simp [notified])) moved
      exact follows taken (.behind (worker.worker.trans notified) (by rw [listening]))
  | awaiting starting waits nothing absent =>
      subst absent
      have notReloading : before.reloader.worker ≠ some .reloading := by
        rcases waits with looking | waiting <;> simp [*]
      obtain ⟨taken, worker, -⟩ := Reloader.step_recast shared (idle notReloading) moved
      have stillWaits : next.worker = some .looking ∨ next.worker = some .waiting := by
        rwa [worker.worker]
      exact follows taken (.awaiting starting stillWaits (worker.permit.trans nothing) rfl)

theorem step_start_recast {listening : Bool} (going : reloader.stopping = false) :
    (reloader.recast none false listening).step .start =
      some (reloader.recast (some .looking) true true) := by
  simp [Reloader.step, Reloader.recast, going, Reloader.notify]

theorem step_announce_recast {listening : Bool} {others : Nat}
    (stored : reloader.unannounced = others + 1) :
    (reloader.recast (some .looking) true listening).step .announce =
      some (Reloader.recast { reloader with unannounced := others } (some .looking) true
        listening) := by
  cases listening <;>
    simp [Reloader.step, Reloader.recast, Reloader.announce, Reloader.notify, stored]

/-- A further notice is one with that which has woken the worker. -/
theorem matches_of_noticed_again (noticed : Reloader.Noticed reloader next)
    (notified : reloader.worker = some .notified) :
    Matches ⟨next, call⟩ (reloader.recast (some .looking) true reloader.listening) := by
  cases noticed with
  | woke waiting => simp [notified] at waiting
  | kept busy => exact .behind notified rfl

/-- The reloader has set up its worker when the first notice comes. -/
theorem matches_of_noticed_first (noticed : Reloader.Noticed reloader next)
    (idle : reloader.worker = some .looking ∨ reloader.worker = some .waiting)
    (hears : reloader.listening = true) :
    Matches ⟨next, call⟩ (reloader.recast (some .looking) true true) := by
  cases noticed with
  | woke waiting => exact .behind rfl (by simp [Reloader.recast, hears])
  | kept busy =>
      have looking : reloader.worker = some .looking := idle.resolve_right busy
      exact .same (by simp [Reloader.recast, hears, looking])

theorem going_of_starting (coordinated : before.Coordinated)
    (starting : before.call = some .starting) : before.reloader.stopping = false := by
  simpa [starting] using coordinated.stopping

theorem step_notify_of_noticed (noticed : Reloader.Noticed reloader next) :
    reloader.step .notify = some next := by
  cases noticed with
  | woke waiting => simp [Reloader.step, Reloader.notify, waiting]
  | kept busy => simp [Reloader.step, Reloader.notify]

theorem follows_of_noticed (matched : Matches before reloader) (coordinated : before.Coordinated)
    (noticed : Reloader.Noticed before.reloader next) : Follows reloader [] ⟨next, call⟩ := by
  cases matched with
  | same equal =>
      subst equal
      exact .move (step_notify_of_noticed noticed) rfl (.stay (.same rfl))
  | behind notified kept =>
      subst kept
      exact .stay (matches_of_noticed_again noticed notified)
  | awaiting starting idle nothing absent =>
      subst absent
      have hears := coordinated.orderly.workerListens (coordinated.starting starting)
      exact .move (step_start_recast (going_of_starting coordinated starting)) rfl
        (.stay (matches_of_noticed_first noticed idle hears))

theorem follows_of_announced {others : Nat} (matched : Matches before reloader)
    (coordinated : before.Coordinated) (moved : before.reloader.step .announce = some next)
    (stored : before.reloader.unannounced = others + 1)
    (noticed : Reloader.Noticed { before.reloader with unannounced := others } next) :
    Follows reloader [] ⟨next, before.call⟩ := by
  cases matched with
  | same equal =>
      subst equal
      exact .move moved rfl (.stay (.same rfl))
  | behind notified kept =>
      subst kept
      exact .move (step_announce_recast stored) rfl
        (.stay (matches_of_noticed_again noticed notified))
  | awaiting starting idle nothing absent =>
      subst absent
      have hears := coordinated.orderly.workerListens (coordinated.starting starting)
      exact .move (step_start_recast (going_of_starting coordinated starting)) rfl
        (.move (step_announce_recast stored) rfl
          (.stay (matches_of_noticed_first noticed idle hears)))

/-- The reloader takes up the notice that it has kept, and keeps another one if there is one. -/
theorem follows_of_took :
    Follows (reloader.recast (some .looking) true reloader.listening) []
      ⟨{ reloader with worker := some .reloading, line := reloader.line ++ [.worker] }, call⟩ := by
  have looked : (reloader.recast (some .looking) true reloader.listening).step .look =
      some { reloader with
        permit := false, worker := some .reloading, line := reloader.line ++ [.worker] } := by
    simp [Reloader.step, Reloader.recast, Reloader.queueWorker]
  cases permit : reloader.permit with
  | false =>
      refine .move looked rfl (.stay (.same ?_))
      rw [← permit]
  | true =>
      have notified : Reloader.step
          { reloader with
            permit := false, worker := some .reloading, line := reloader.line ++ [.worker] }
          .notify =
          some { reloader with
            permit := true, worker := some .reloading, line := reloader.line ++ [.worker] } := by
        simp [Reloader.step, Reloader.notify]
      refine .move looked rfl (.move notified rfl (.stay (.same ?_)))
      rw [← permit]

/-- What the worker does about its notices, and who sends it some. -/
theorem follows_of_hidden (matched : Matches before reloader) (coordinated : before.Coordinated)
    (noCall : isCall inner = false) (hidden : inner.isShared = false)
    (moved : before.reloader.step inner = some next) : Follows reloader [] ⟨next, before.call⟩ := by
  have alike (equal : reloader = before.reloader) : Follows reloader [] ⟨next, before.call⟩ :=
    .move (equal ▸ moved) hidden (.stay (.same rfl))
  cases Reloader.transition_of_step moved with
  | notified noticed => exact follows_of_noticed matched coordinated noticed
  | announced stored hears noticed =>
      exact follows_of_announced matched coordinated moved stored noticed
  | unheard stored deaf =>
      cases matched with
      | same equal => exact alike equal
      | behind notified kept =>
          subst kept
          exact .move (step_announce_recast stored) rfl (.stay (.behind notified rfl))
      | awaiting starting =>
          have hears := coordinated.orderly.workerListens (coordinated.starting starting)
          simp [hears] at deaf
  | foundKept looking kept =>
      cases matched with
      | same equal => exact alike equal
      | behind notified => simp [looking] at notified
      | awaiting starting idle nothing => simp [kept] at nothing
  | foundNothing looking nothing =>
      cases matched with
      | same equal => exact alike equal
      | behind notified => simp [looking] at notified
      | awaiting starting idle nothing absent =>
          exact .stay (.awaiting starting (.inr rfl) nothing absent)
  | took notified =>
      cases matched with
      | same equal => exact alike equal
      | behind notified kept =>
          subst kept
          exact follows_of_took
      | awaiting starting idle nothing => simp [notified] at idle
  | quit stopping idle =>
      cases matched with
      | same equal => exact alike equal
      | behind notified => simp [notified] at idle
      | awaiting starting => simp [going_of_starting coordinated starting] at stopping
  | quitNotified stopping notified =>
      cases matched with
      | same equal => exact alike equal
      | behind notified kept =>
          subst kept
          have quit : (before.reloader.recast (some .looking) true before.reloader.listening).step
              .quit =
                some { before.reloader with worker := none, stopping := false, permit := true } := by
            simp [Reloader.step, Reloader.recast, stopping]
          exact .move quit rfl (.stay (.same rfl))
      | awaiting starting => simp [going_of_starting coordinated starting] at stopping
  | alreadyStarted | started | stopped => cases noCall
  | _ => cases hidden

theorem follows_of_spawned (matched : Matches before reloader) (coordinated : before.Coordinated)
    (free : before.call = none) (idle : before.reloader.worker = none) :
    Follows reloader [] ⟨before.reloader.spawn, some .starting⟩ := by
  have going : before.reloader.stopping = false := by simpa [free] using coordinated.stopping
  cases matched with
  | same equal =>
      subst equal
      -- A notice that was kept for the worker serves for the first one.
      cases permit : before.reloader.permit with
      | true =>
          have started : before.reloader.step .start = some before.reloader.spawn := by
            simp [Reloader.step, Reloader.spawn, Reloader.notify, going, idle, ← permit]
          exact .move started rfl (.stay (.same rfl))
      | false =>
          have absent : before.reloader =
              before.reloader.spawn.recast none false before.reloader.listening := by
            rw [Reloader.spawn, Reloader.recast, ← idle, ← permit]
          exact .stay (@Matches.awaiting ⟨_, _⟩ _ _ rfl (.inl rfl) permit absent)
  | behind notified => simp [idle] at notified
  | awaiting starting => simp [free] at starting

theorem follows_of_told (matched : Matches before reloader) (free : before.call = none)
    (going : before.reloader.stopping = false) :
    Follows reloader []
      ⟨{ before.reloader with stopping := before.reloader.worker.isSome }, some .stopping⟩ := by
  cases matched with
  | same equal =>
      subst equal
      have told : before.reloader.step .stop =
          some { before.reloader with stopping := before.reloader.worker.isSome } := by
        simp [Reloader.step, going]
      exact .move told rfl (.stay (.same rfl))
  | behind notified kept =>
      subst kept
      have told : (before.reloader.recast (some .looking) true before.reloader.listening).step
          .stop = some (Reloader.recast
            { before.reloader with stopping := before.reloader.worker.isSome }
            (some .looking) true before.reloader.listening) := by
        simp [Reloader.step, Reloader.recast, going, notified]
      exact .move told rfl (.stay (.behind notified rfl))
  | awaiting starting => simp [free] at starting

theorem follows_of_step (matched : Matches before reloader) (coordinated : before.Coordinated)
    (taken : before.step act = some after) :
    Follows reloader (before.reloader.sight? act.inner).toList after := by
  cases transition_of_step taken with
  | alreadyStarted => exact .stay matched
  | spawned free idle => exact follows_of_spawned matched coordinated free idle
  | greeted starting noticed => exact follows_of_noticed matched coordinated noticed
  | toldToStop free going => exact follows_of_told matched free going
  | left stopping gone =>
      cases matched with
      | same equal => exact .stay (.same equal)
      | behind notified => simp [gone] at notified
      | awaiting starting => simp [stopping] at starting
  | @went inner next noCall moved =>
      cases shared : inner.isShared with
      | true => exact follows_of_shared matched coordinated.orderly shared moved
      | false =>
          have unseen : before.reloader.sight? inner = none := Reloader.sight?_of_hidden shared
          have hidden := follows_of_hidden matched coordinated noCall shared moved
          rw [Step.inner, unseen]
          exact hidden

/-- A reloader can follow a run of a coordinator in all that concerns the loads. -/
theorem exists_reloads_of_run (run : Run source history final) :
    ∃ moves last, Reloader.Run (.ofSource source) moves last ∧ Matches final last ∧
      seen Reloader.sight? moves = seen Reloader.sight? (reloads history) := by
  induction run with
  | nil => exact ⟨[], .ofSource source, .nil, .same rfl, rfl⟩
  | snoc earlier taken ih =>
      obtain ⟨moves, reached, first, matched, shown⟩ := ih
      obtain ⟨more, last, rest, stillMatched, shownThen⟩ :=
        follows_of_step matched (coordinated_of_run earlier) taken
      refine ⟨moves ++ more, last, first.append rest, stillMatched, ?_⟩
      rw [seen_append, reloads_snoc, seen_snoc, shown, shownThen]

/-- The accounts of loads are kept as well when calls take several steps. -/
theorem accounted_of_run (run : Run source history final) :
    final.reloader.Accounted (reloads history) := by
  obtain ⟨moves, last, followed, matched, shown⟩ := exists_reloads_of_run run
  exact followed.accounted.of_sights shown matched.bare

/-- A coordinator at rest has published what its source holds, if its last load succeeded. -/
theorem published_source_of_run {catalog loaded : Catalog} {available : Bool}
    (run : Run (.memory catalog available) history final) (returned : final.call = none)
    (quiet : final.reloader.Quiet)
    (last : (seen Reloader.ending? (reloads history)).getLast? = some (.ok loaded)) :
    ∃ snapshot, final.reloader.cache.current = some snapshot ∧
      final.reloader.source.content = .ok snapshot.catalog := by
  obtain ⟨moves, reloader, followed, matched, shown⟩ := exists_reloads_of_run run
  rw [← Reloader.ofLoads_ending?.seen_eq shown] at last
  cases matched with
  | same equal =>
      subst equal
      exact followed.fresh.published_source followed.orderly quiet last
  | behind notified => exact absurd notified quiet.untold
  | awaiting starting => simp [returned] at starting

end Coordinator

end Audience
