import Audience.Proofs.Reload.Accounts
import Audience.Proofs.Reload.Freshness

namespace Audience

/-! What the published content was taken from.

A load reads a source in memory at one instant between its beginning and its end, and loads do not
overlap.  So each published snapshot is the whole source as it was at an instant of its own load,
and what is published later was read later.
-/

namespace Reloader

/-- A load that published: the places in a history at which it began, read and ended, and what it
published. -/
structure Publication where
  began : Nat
  read : Nat
  ended : Nat
  snapshot : Snapshot

namespace Publication

/-- A history tells of a publication. -/
structure Recorded (history : List (Reloader × Step)) (publication : Publication) : Prop where
  beginning : ∃ reloader, history[publication.began]? = some (reloader, .begin)
  /-- When the load read, the source held what it published. -/
  reading : ∃ reloader available, history[publication.read]? = some (reloader, .read) ∧
    reloader.source = .memory publication.snapshot.catalog available
  ending : ∃ reloader, history[publication.ended]? = some (reloader, .finish) ∧
    reloader.returned? .finish = some publication.snapshot
  inside : publication.began < publication.read ∧ publication.read < publication.ended
  /-- The load that ended is the one that had begun. -/
  alone : ∀ place reloader step, publication.began < place → place < publication.ended →
    history[place]? = some (reloader, step) → step ≠ .begin ∧ step ≠ .finish

structure Precedes (earlier later : Publication) : Prop where
  generation : earlier.snapshot.generation < later.snapshot.generation
  read : earlier.read < later.read
  apart : earlier.ended < later.began

end Publication

/-- All that a run has published, in order. -/
structure Chronicle (history : List (Reloader × Step)) (reloader : Reloader)
    (publications : List Publication) : Prop where
  recorded : ∀ publication ∈ publications, publication.Recorded history
  complete : publications.map Publication.snapshot = seen returned? history
  ascending : publications.Pairwise Publication.Precedes
  numbered : publications.map (·.snapshot.generation) = List.range' 1 reloader.completed
  current : reloader.cache.current = publications.getLast?.map Publication.snapshot

/-- The load under way, as a history tells of it. -/
structure UnderWay (history : List (Reloader × Step)) (reloader : Reloader) (began : Nat) :
    Prop where
  beginning : ∃ earlier, history[began]? = some (earlier, .begin)
  alone : ∀ place earlier step, began < place → history[place]? = some (earlier, step) →
    step ≠ .begin ∧ step ≠ .finish
  reading : ∀ catalog, reloader.load = some (.loaded (.ok catalog)) →
    ∃ read earlier available, began < read ∧ history[read]? = some (earlier, .read) ∧
      earlier.source = .memory catalog available

variable {before after : Reloader} {step : Step} {history : List (Reloader × Step)}
  {publications : List Publication} {place : Nat} {entry last : Reloader × Step}

theorem lt_length_of_getElem? (found : history[place]? = some entry) : place < history.length :=
  (List.getElem?_eq_some_iff.mp found).1

theorem getElem?_snoc_of_some (found : history[place]? = some entry) :
    (history ++ [last])[place]? = some entry := by
  rw [List.getElem?_append_left (lt_length_of_getElem? found), found]

theorem getElem?_snoc_length : (history ++ [last])[history.length]? = some last := by
  simp

theorem getElem?_snoc_cases (found : (history ++ [last])[place]? = some entry) :
    history[place]? = some entry ∨ place = history.length ∧ entry = last := by
  by_cases inside : place < history.length
  · rw [List.getElem?_append_left inside] at found
    exact .inl found
  · have bound := lt_length_of_getElem? found
    rw [List.length_append, List.length_singleton] at bound
    have here : place = history.length := by omega
    subst here
    rw [getElem?_snoc_length, Option.some.injEq] at found
    exact .inr ⟨rfl, found.symm⟩

theorem Publication.Recorded.snoc {publication : Publication}
    (recorded : publication.Recorded history) : publication.Recorded (history ++ [last]) := by
  obtain ⟨beginner, began⟩ := recorded.beginning
  obtain ⟨reader, available, read, source⟩ := recorded.reading
  obtain ⟨ender, ended, returned⟩ := recorded.ending
  refine
    { beginning := ⟨beginner, getElem?_snoc_of_some began⟩
      reading := ⟨reader, available, getElem?_snoc_of_some read, source⟩
      ending := ⟨ender, getElem?_snoc_of_some ended, returned⟩
      inside := recorded.inside
      alone := ?_ }
  intro place reloader step behind ahead found
  rcases getElem?_snoc_cases found with old | ⟨here, _⟩
  · exact recorded.alone place reloader step behind ahead old
  · have bound := lt_length_of_getElem? ended
    omega

/-- What a load has found was found just now or before. -/
theorem loaded_ok_of_step {catalog : Catalog} (taken : before.step step = some after)
    (loaded : after.load = some (.loaded (.ok catalog))) :
    before.load = some (.loaded (.ok catalog)) ∨
      step = .read ∧ before.source.content = .ok catalog := by
  cases transition_of_step taken with
  | notified noticed => exact .inl (noticed.load ▸ loaded)
  | announced stored listening noticed => exact .inl (noticed.load ▸ loaded)
  | begun line free => cases loaded
  | probed begun available => cases loaded
  | unavailable begun unavailable => cases loaded
  | read probed =>
      simp only [Option.some.injEq, LoadPhase.loaded.injEq] at loaded
      exact .inr ⟨rfl, loaded⟩
  | published line found => cases loaded
  | failed line found => cases loaded
  | _ => exact .inl loaded

namespace UnderWay

theorem of_begun (fresh : after.load = some .begun) :
    UnderWay (history ++ [(before, .begin)]) after history.length where
  beginning := ⟨before, getElem?_snoc_length⟩
  alone := by
    intro place earlier step behind found
    have bound := lt_length_of_getElem? found
    rw [List.length_append, List.length_singleton] at bound
    omega
  reading := by simp [fresh]

theorem of_step {began : Nat} (underWay : UnderWay history before began)
    (inMemory : ∃ catalog available, before.source = .memory catalog available)
    (taken : before.step step = some after) (notBegin : step ≠ .begin) (notFinish : step ≠ .finish) :
    UnderWay (history ++ [(before, step)]) after began := by
  obtain ⟨beginner, beginning⟩ := underWay.beginning
  have behind := lt_length_of_getElem? beginning
  refine { beginning := ⟨beginner, getElem?_snoc_of_some beginning⟩, alone := ?_, reading := ?_ }
  · intro place earlier other later found
    rcases getElem?_snoc_cases found with old | ⟨_, same⟩
    · exact underWay.alone place earlier other later old
    · cases same
      exact ⟨notBegin, notFinish⟩
  · intro catalog loaded
    rcases loaded_ok_of_step taken loaded with old | ⟨rfl, content⟩
    · obtain ⟨read, earlier, available, later, found, source⟩ := underWay.reading catalog old
      exact ⟨read, earlier, available, later, getElem?_snoc_of_some found, source⟩
    · obtain ⟨held, available, source⟩ := inMemory
      rw [source, Source.content, Except.ok.injEq] at content
      exact ⟨history.length, before, available, behind, getElem?_snoc_length, content ▸ source⟩

end UnderWay

/-- What has been published so far, and the load under way behind it. -/
structure Followed (history : List (Reloader × Step)) (reloader : Reloader)
    (publications : List Publication) : Prop where
  recorded : ∀ publication ∈ publications, publication.Recorded history
  complete : publications.map Publication.snapshot = seen returned? history
  ascending : publications.Pairwise Publication.Precedes
  underWay : reloader.load ≠ none → ∃ began, UnderWay history reloader began ∧
    ∀ publication ∈ publications, publication.ended < began

namespace Followed

theorem ended_lt_length (followed : Followed history before publications) :
    ∀ publication ∈ publications, publication.ended < history.length := by
  intro publication member
  obtain ⟨_, ended, _⟩ := (followed.recorded publication member).ending
  exact lt_length_of_getElem? ended

theorem generation_le (followed : Followed history before publications)
    (accounted : before.Accounted history) :
    ∀ publication ∈ publications, publication.snapshot.generation ≤ before.completed := by
  intro publication member
  have returned : publication.snapshot ∈ seen returned? history := by
    rw [← followed.complete]
    exact List.mem_map_of_mem member
  have numbered : publication.snapshot.generation ∈ List.range' 1 before.completed := by
    rw [← accounted.returned]
    exact List.mem_map_of_mem returned
  have bounds := List.mem_range'_1.mp numbered
  omega

theorem of_unfinished (followed : Followed history before publications)
    (inMemory : ∃ catalog available, before.source = .memory catalog available)
    (same : Untouched before after) (taken : before.step step = some after)
    (notBegin : step ≠ .begin) (notFinish : step ≠ .finish) :
    Followed (history ++ [(before, step)]) after publications where
  recorded := fun publication member => (followed.recorded publication member).snoc
  complete := by simp [returned?_of_ne_finish before notFinish, followed.complete]
  ascending := followed.ascending
  underWay := by
    intro loading
    have wasLoading : before.load ≠ none := by
      rw [← Option.isSome_iff_ne_none] at loading ⊢
      rw [← same.load, loading]
    obtain ⟨began, underWay, behind⟩ := followed.underWay wasLoading
    exact ⟨began, underWay.of_step inMemory taken notBegin notFinish, behind⟩

theorem of_begun (followed : Followed history before publications)
    (begun : after.load = some .begun) :
    Followed (history ++ [(before, .begin)]) after publications where
  recorded := fun publication member => (followed.recorded publication member).snoc
  complete := by simp [returned?, ending?, followed.complete]
  ascending := followed.ascending
  underWay := fun _ => ⟨history.length, .of_begun begun, followed.ended_lt_length⟩

theorem of_failed {cause : LoadError} (followed : Followed history before publications)
    (loaded : before.load = some (.loaded (.error cause))) (free : after.load = none) :
    Followed (history ++ [(before, .finish)]) after publications where
  recorded := fun publication member => (followed.recorded publication member).snoc
  complete := by simp [returned?_of_error loaded, followed.complete]
  ascending := followed.ascending
  underWay := fun loading => absurd free loading

theorem of_published {catalog : Catalog} (followed : Followed history before publications)
    (accounted : before.Accounted history) (loaded : before.load = some (.loaded (.ok catalog)))
    (returned : before.returned? .finish = some ⟨before.completed + 1, catalog⟩)
    (free : after.load = none) :
    ∃ publication, Followed (history ++ [(before, .finish)]) after (publications ++ [publication]) := by
  obtain ⟨began, underWay, behind⟩ := followed.underWay (by simp [loaded])
  obtain ⟨beginner, beginning⟩ := underWay.beginning
  obtain ⟨read, reader, available, later, reading, source⟩ := underWay.reading catalog loaded
  have ahead := lt_length_of_getElem? reading
  refine ⟨⟨began, read, history.length, ⟨before.completed + 1, catalog⟩⟩, ?_⟩
  refine { recorded := ?_, complete := ?_, ascending := ?_, underWay := ?_ }
  · intro publication member
    rcases List.mem_append.mp member with old | new
    · exact (followed.recorded publication old).snoc
    · rw [List.mem_singleton.mp new]
      refine
        { beginning := ⟨beginner, getElem?_snoc_of_some beginning⟩
          reading := ⟨reader, available, getElem?_snoc_of_some reading, source⟩
          ending := ⟨before, getElem?_snoc_length, returned⟩
          inside := ⟨later, ahead⟩
          alone := ?_ }
      intro place earlier step behind ahead found
      rcases getElem?_snoc_cases found with old | ⟨here, _⟩
      · exact underWay.alone place earlier step behind old
      · exact absurd here (Nat.ne_of_lt ahead)
  · simp [returned, followed.complete]
  · refine List.pairwise_append.mpr ⟨followed.ascending, by simp, ?_⟩
    intro earlier member publication new
    rw [List.mem_singleton.mp new]
    have inside := (followed.recorded earlier member).inside
    have apart := behind earlier member
    have generation := followed.generation_le accounted earlier member
    exact
      { generation := by simp only; omega
        read := by simp only; omega
        apart := apart }
  · intro loading
    exact absurd free loading

theorem of_step (followed : Followed history before publications)
    (accounted : before.Accounted history) (orderly : before.Orderly)
    (inMemory : ∃ catalog available, before.source = .memory catalog available)
    (taken : before.step step = some after) :
    ∃ publications, Followed (history ++ [(before, step)]) after publications := by
  by_cases begins : step = .begin
  · subst begins
    cases transition_of_step taken with
    | begun line free => exact ⟨publications, followed.of_begun rfl⟩
  by_cases finishes : step = .finish
  · subst finishes
    obtain ⟨party, rest, outcome, line, loaded, rfl⟩ := exists_of_finish taken
    cases outcome with
    | error cause => exact ⟨publications, followed.of_failed loaded rfl⟩
    | ok catalog =>
        have returned : before.returned? .finish = some ⟨before.completed + 1, catalog⟩ := by
          rw [returned?_of_ok taken loaded, ← accounted.generation]
          rfl
        have free : ((before.conclude (.ok catalog)).dismiss party).load = none := rfl
        obtain ⟨publication, more⟩ := followed.of_published accounted loaded returned free
        exact ⟨publications ++ [publication], more⟩
  · have same := untouched_of_step orderly taken begins finishes
    exact ⟨publications, followed.of_unfinished inMemory same taken begins finishes⟩

end Followed

theorem Run.followed {catalog : Catalog} {available : Bool} {final : Reloader}
    (run : Run (ofSource (.memory catalog available)) history final) :
    ∃ publications, Followed history final publications := by
  induction run with
  | nil =>
      refine ⟨[], { recorded := by simp, complete := rfl, ascending := .nil, underWay := ?_ }⟩
      intro loading
      exact absurd rfl loading
  | snoc earlier taken ih =>
      obtain ⟨publications, followed⟩ := ih
      exact followed.of_step (Run.accounted earlier) (Run.orderly earlier)
        (Run.fresh earlier).inMemory taken

/-- However writes and loads fall together, each generation holds the whole source as it was at an
instant within the load that published it, later generations come from later loads, and readers get
the last of them. -/
theorem chronicle_of_run {catalog : Catalog} {available : Bool} {final : Reloader}
    (run : Run (ofSource (.memory catalog available)) history final) :
    ∃ publications, Chronicle history final publications := by
  obtain ⟨publications, followed⟩ := run.followed
  have accounted := run.accounted
  refine
    ⟨publications,
      { recorded := followed.recorded
        complete := followed.complete
        ascending := followed.ascending
        numbered := ?_
        current := ?_ }⟩
  · rw [← accounted.returned, ← followed.complete, List.map_map]
    rfl
  · rw [accounted.current, ← followed.complete, List.getLast?_map]

/-- One write lands between the beginning of a load and its reading, another between its reading
and its end; a request loads again. -/
def writesWithinLoad : List Step :=
  [.start, .look, .begin, .put "1" .empty, .announce, .probe, .read, .put "2" .empty, .announce,
    .request 0, .finish, .begin, .probe, .read, .finish]

theorem writesWithinLoad_chronicle :
    ∃ run, Trace.execute Reloader.step (ofSource (.memory .empty true)) writesWithinLoad = some run ∧
      run.2.completed = 2 ∧ ∃ publications, Chronicle run.1 run.2 publications := by
  obtain ⟨run, executed, completed⟩ :
      ∃ run, Trace.execute Reloader.step (ofSource (.memory .empty true)) writesWithinLoad = some run ∧
        run.2.completed = 2 :=
    ⟨_, rfl, rfl⟩
  exact ⟨run, executed, completed, chronicle_of_run (Trace.of_execute executed)⟩

end Reloader

end Audience
