import Audience.Proofs.Reload.Freshness

namespace Audience

/-! Loads from a file, which changes without a word to the reloader. -/

namespace Reloader

/-- The last load to read a file has found what the file still holds. -/
structure UpToDate (reloader : Reloader) (ended : List (Except LoadError Catalog)) : Prop where
  found : ∀ outcome, reloader.load = some (.loaded outcome) → outcome = reloader.source.content
  settled : (∀ outcome, reloader.load ≠ some (.loaded outcome)) →
    ∀ outcome, ended.getLast? = some outcome → outcome = reloader.source.content

variable {before after : Reloader} {step : Step} {ended : List (Except LoadError Catalog)}

theorem UpToDate.of_read (taken : before.step .read = some after) : after.UpToDate ended := by
  cases transition_of_step taken with
  | read probed =>
      exact
        { found := by
            intro outcome loaded
            cases loaded
            rfl
          settled := fun unread => absurd rfl (unread before.source.content) }

/-- A load goes on, or nothing happens to it. -/
theorem UpToDate.keep (upToDate : before.UpToDate ended) (source : after.source = before.source)
    (load : after.load = before.load ∨
      (∀ outcome, before.load ≠ some (.loaded outcome)) ∧
        ∀ outcome, after.load ≠ some (.loaded outcome)) : after.UpToDate ended := by
  rcases load with same | ⟨unread, stillUnread⟩
  · exact
      { found := by rw [same, source]; exact upToDate.found
        settled := by rw [same, source]; exact upToDate.settled }
  · exact
      { found := fun outcome loaded => absurd loaded (stillUnread outcome)
        settled := fun _ => by rw [source]; exact upToDate.settled unread }

theorem UpToDate.of_ended {outcome : Except LoadError Catalog} (upToDate : before.UpToDate ended)
    (loaded : before.load = some (.loaded outcome)) (source : after.source = before.source)
    (load : after.load = none) : after.UpToDate (ended ++ [outcome]) where
  found := by simp [load]
  settled := by
    intro _ last same
    rw [List.getLast?_concat] at same
    cases same
    rw [source]
    exact upToDate.found outcome loaded

theorem UpToDate.of_step {path : String} {disk : Disk} (upToDate : before.UpToDate ended)
    (inFile : before.source = .file path disk) (taken : before.step step = some after)
    (unchanged : ∀ disk, step ≠ .setDisk disk) :
    after.UpToDate (ended ++ (before.ending? step).toList) := by
  by_cases finish : step = .finish
  · subst finish
    cases transition_of_step taken with
    | published line loaded =>
        simp only [ending?, loaded, Option.toList_some]
        exact upToDate.of_ended loaded rfl rfl
    | failed line loaded =>
        simp only [ending?, loaded, Option.toList_some]
        exact upToDate.of_ended loaded rfl rfl
  rw [ending?_of_ne_finish before finish, Option.toList_none, List.append_nil]
  cases transition_of_step taken with
  | notified noticed => exact upToDate.keep noticed.source (.inl noticed.load)
  | announced stored listening noticed => exact upToDate.keep noticed.source (.inl noticed.load)
  | put stored => simp [inFile, Source.put] at stored
  | replaced stored => simp [inFile, Source.replace] at stored
  | switched switched => simp [inFile, Source.setAvailable] at switched
  | diskChanged changed => exact absurd rfl (unchanged _)
  | begun line free => exact upToDate.keep rfl (.inr (by simp [free]))
  | probed begun available => exact upToDate.keep rfl (.inr (by simp [begun]))
  | unavailable begun unavailable => simp [inFile, Source.isAvailable] at unavailable
  | read probed => exact .of_read taken
  | published line loaded => exact absurd rfl finish
  | failed line loaded => exact absurd rfl finish
  | _ => exact upToDate.keep rfl (.inl rfl)

theorem content_of_loaded {path : String} {disk : Disk} {outcome : Except LoadError Catalog}
    (inFile : before.source = .file path disk) (taken : before.step step = some after)
    (loaded : after.load = some (.loaded outcome)) :
    before.load = some (.loaded outcome) ∨ step = .read ∧ before.source.content = outcome := by
  cases transition_of_step taken with
  | notified noticed => exact .inl (noticed.load ▸ loaded)
  | announced stored listening noticed => exact .inl (noticed.load ▸ loaded)
  | begun line free => cases loaded
  | probed begun available => cases loaded
  | unavailable begun unavailable => simp [inFile, Source.isAvailable] at unavailable
  | read probed =>
      cases loaded
      exact .inr ⟨rfl, rfl⟩
  | published line done => cases loaded
  | failed line done => cases loaded
  | _ => exact .inl loaded

theorem loaded_of_ending? {outcome : Except LoadError Catalog}
    (ended : before.ending? step = some outcome) : before.load = some (.loaded outcome) := by
  cases step with
  | finish =>
      simp only [ending?] at ended
      split at ended
      · next found loaded =>
          cases ended
          exact loaded
      · cases ended
  | _ => cases ended

/-- Whoever is told of writes was so before, or has been told to load just now. -/
theorem Pending.of_new_listener (taken : before.step step = some after)
    (deaf : before.listening = false) (listening : after.listening = true) : after.Pending := by
  cases transition_of_step taken with
  | started going idle => exact .kept rfl
  | notified noticed => exact .of_noticed noticed
  | announced stored heard noticed => exact .of_noticed noticed
  | _ => simp [deaf] at listening

theorem source_of_file {path : String} {disk : Disk} (inFile : before.source = .file path disk)
    (taken : before.step step = some after) : ∃ disk, after.source = .file path disk := by
  cases transition_of_step taken with
  | notified noticed => exact ⟨disk, by rw [noticed.source, inFile]⟩
  | announced stored listening noticed => exact ⟨disk, by rw [noticed.source, inFile]⟩
  | put stored => simp [inFile, Source.put] at stored
  | replaced stored => simp [inFile, Source.replace] at stored
  | switched switched => simp [inFile, Source.setAvailable] at switched
  | diskChanged changed =>
      simp only [inFile, Source.setDisk, Option.some.injEq] at changed
      exact ⟨_, changed.symm⟩
  | _ => exact ⟨disk, inFile⟩

theorem Quiet.of_waiting {reloader : Reloader} (waiting : reloader.worker = some .waiting)
    (nothingKept : reloader.permit = false) (allAnnounced : reloader.unannounced = 0) :
    reloader.Quiet where
  running := by simp [waiting]
  idle := by simp [waiting]
  untold := by simp [waiting]
  nothingKept := nothingKept
  allAnnounced := allAnnounced

theorem Run.inFile {path : String} {disk : Disk} {history : List (Reloader × Step)}
    {final : Reloader} (run : Run (ofSource (.file path disk)) history final) :
    ∃ disk, final.source = .file path disk := by
  induction run with
  | nil => exact ⟨disk, rfl⟩
  | snoc _ taken ih =>
      obtain ⟨earlier, inFile⟩ := ih
      exact source_of_file inFile taken

end Reloader

end Audience
