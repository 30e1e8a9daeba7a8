import Audience.Proofs.Polling.Run
import Audience.Proofs.Reload.File

namespace Audience

/-! Which changes of a content file are noticed.

A poller notices a change by comparing what it finds with what it knew before.  What it finds at its
first look it takes for known, whether or not a load has read it.  So a change between the last
reading of a load and the first look is missed; no other change is.
-/

namespace Service

/-- A step was taken behind the last change of the file. -/
def Since (wanted : Step) (history : List (Service × Step)) : Prop :=
  ∃ earlier service later, history = earlier ++ (service, wanted) :: later ∧
    ∀ entry ∈ later, entry.2.isChange = false

/-- When the file was written, for each state that it has had. -/
def stamps (history : List (Service × Step)) (final : Service) : List Modified :=
  (history.filterMap fun (service, step) =>
    if step.isChange then some service.modified else none) ++ [final.modified]

/-- The last change came before the first look of the poller, and no load has read since. -/
def Missed (history : List (Service × Step)) : Prop :=
  Since .firstLook history ∧ ¬Since (.reload .read) history

/-- The file has been looked at since its last change, and no reload is pending or running. -/
structure Settled (history : List (Service × Step)) (final : Service) : Prop where
  looked : Since .look history
  compared : ∃ known, final.poller = some ⟨some known, none⟩
  quiet : final.reloader.Quiet
  nobodyLoads : final.reloader.line = []

variable {before after : Service} {step wanted : Step} {history : List (Service × Step)}

theorem since_snoc : Since wanted (history ++ [(before, step)]) ↔
    step = wanted ∨ (Since wanted history ∧ step.isChange = false) := by
  constructor
  · intro since
    obtain ⟨earlier, service, later, parts, unchanged⟩ := since
    rcases List.eq_nil_or_concat later with rfl | ⟨front, last, rfl⟩
    · have same := (List.append_inj' parts rfl).2
      simp only [List.cons.injEq, Prod.mk.injEq, and_true] at same
      exact .inl same.2
    · rw [List.concat_eq_append, ← List.cons_append, ← List.append_assoc] at parts
      obtain ⟨rfl, same⟩ := List.append_inj' parts rfl
      obtain ⟨rfl, _⟩ := List.cons.inj same
      exact .inr ⟨⟨earlier, service, front, rfl, fun entry member =>
        unchanged entry (by simp [member])⟩, unchanged (before, step) (by simp)⟩
  · intro since
    rcases since with rfl | ⟨⟨earlier, service, later, rfl, unchanged⟩, here⟩
    · exact ⟨history, before, [], rfl, by simp⟩
    · refine ⟨earlier, service, later ++ [(before, step)], by simp, ?_⟩
      intro entry member
      rcases List.mem_append.mp member with old | new
      · exact unchanged entry old
      · rw [List.mem_singleton.mp new]
        exact here

theorem stamps_snoc_of_change (change : step.isChange = true) :
    stamps (history ++ [(before, step)]) after = stamps history before ++ [after.modified] := by
  simp [stamps, List.filterMap_append, change]

theorem stamps_snoc (still : step.isChange = false) (modified : after.modified = before.modified) :
    stamps (history ++ [(before, step)]) after = stamps history before := by
  simp [stamps, List.filterMap_append, still, modified]

theorem isChange_of_isAside (aside : step.isAside = true) : step.isChange = false := by
  cases step with
  | ask ticket => rfl
  | answer ticket => rfl
  | giveUp ticket => rfl
  | check => rfl
  | _ => cases aside

theorem since_keep (other : step ≠ wanted) (unchanged : step.isChange = false) :
    Since wanted (history ++ [(before, step)]) ↔ Since wanted history := by
  simp [since_snoc, other, unchanged]

theorem upToDate_of_step {path : String} {disk : Disk}
    (inFile : before.reloader.source = .file path disk)
    (read : Since (.reload .read) history → before.reloader.UpToDate (seen ending? history))
    (taken : before.step step = some after)
    (since : Since (.reload .read) (history ++ [(before, step)])) :
    after.reloader.UpToDate (seen ending? (history ++ [(before, step)])) := by
  rw [seen_snoc]
  rcases since_snoc.mp since with rfl | ⟨earlier, unchanged⟩
  · cases transition_of_step taken with
    | reloaded moved aside => exact .of_read moved
    | stoodAside aside => simp [Step.isAside] at aside
  · have upToDate := read earlier
    cases transition_of_step taken with
    | reloaded moved aside => exact upToDate.of_step inFile moved aside
    | wrote moved => simp [Step.isChange] at unchanged
    | deleted moved => simp [Step.isChange] at unchanged
    | foundChanged looked different =>
        simpa [ending?] using
          upToDate.keep before.reloader.announce_source (.inl before.reloader.announce_load)
    | stoodAside aside => simpa [ending?_of_isAside before aside] using upToDate
    | _ => simpa [ending?] using upToDate

structure LookedAt (service : Service) : Prop where
  known : ∀ known, service.poller = some ⟨some known, none⟩ → known = service.modified
  found : ∀ seen found, service.poller = some ⟨seen, some found⟩ → found = service.modified

theorem lookedAt_of_step (looked : Since .look history → before.LookedAt)
    (taken : before.step step = some after) (since : Since .look (history ++ [(before, step)])) :
    after.LookedAt := by
  rcases since_snoc.mp since with rfl | ⟨earlier, unchanged⟩
  · cases transition_of_step taken with
    | looked idle => exact { known := by simp, found := by simp }
    | stoodAside aside => simp [Step.isAside] at aside
  · have lookedAt := looked earlier
    cases transition_of_step taken with
    | reloaded moved aside => exact { known := lookedAt.known, found := lookedAt.found }
    | wrote moved => simp [Step.isChange] at unchanged
    | deleted moved => simp [Step.isChange] at unchanged
    | foundSame found =>
        exact { known := by simpa using lookedAt.found _ _ found, found := by simp }
    | foundChanged found different =>
        exact { known := by simpa using lookedAt.found _ _ found, found := by simp }
    | stoodAside aside => exact { known := lookedAt.known, found := lookedAt.found }
    | _ => exact { known := by simp, found := by simp }

/-- What the poller knows of the file is how the file once was. -/
def Recorded (history : List (Service × Step)) (service : Service) : Prop :=
  ∀ poller modified, service.poller = some poller →
    poller.seen = some modified ∨ poller.found = some modified → modified ∈ stamps history service

theorem modified_mem_stamps (history : List (Service × Step)) (final : Service) :
    final.modified ∈ stamps history final := by
  simp [stamps]

theorem modified_of_step (taken : before.step step = some after) (still : step.isChange = false) :
    after.modified = before.modified := by
  cases transition_of_step taken with
  | wrote moved => simp [Step.isChange] at still
  | deleted moved => simp [Step.isChange] at still
  | _ => rfl

theorem stamps_of_step (taken : before.step step = some after) :
    stamps (history ++ [(before, step)]) after =
      stamps history before ++ if step.isChange then [after.modified] else [] := by
  cases change : step.isChange with
  | true => simpa using stamps_snoc_of_change change
  | false => simpa using stamps_snoc change (modified_of_step taken change)

theorem recorded_of_step (recorded : Recorded history before)
    (taken : before.step step = some after) : Recorded (history ++ [(before, step)]) after := by
  intro poller modified watching holds
  rw [stamps_of_step taken]
  refine List.mem_append_left _ ?_
  cases transition_of_step taken with
  | watched =>
      cases watching
      simp at holds
  | unwatched => cases watching
  | lookedFirst new =>
      cases watching
      obtain rfl : before.modified = modified := by simpa using holds
      exact modified_mem_stamps history before
  | @looked known idle =>
      cases watching
      rcases holds with seen | found
      · exact recorded _ modified idle (.inl seen)
      · cases found
        exact modified_mem_stamps history before
  | foundSame found =>
      cases watching
      exact recorded _ modified found (.inr (by simpa using holds))
  | foundChanged found different =>
      cases watching
      exact recorded _ modified found (.inr (by simpa using holds))
  | _ => exact recorded poller modified watching holds

/-- Once it has looked, the poller knows of the last change, or will notice it, or has told of it to
a reloader that has yet to read the file, if nobody has read it. -/
def Attentive (history : List (Service × Step)) (service : Service) : Prop :=
  ∀ known found, service.poller = some ⟨some known, found⟩ →
    service.reloader.listening = true → ¬Since .firstLook history →
    Since (.reload .read) history ∨ service.reloader.Pending ∨ known ≠ service.modified

theorem attentive_of_reloaded {inner : Reloader.Step} {path : String} {disk : Disk}
    {reloader : Reloader} (attentive : Attentive history before)
    (orderly : before.reloader.Orderly) (inFile : before.reloader.source = .file path disk)
    (moved : before.reloader.step inner = some reloader) :
    Attentive (history ++ [(before, .reload inner)]) { before with reloader } := by
  intro known found watching listening notFirst
  rw [since_keep (by simp) rfl] at notFirst
  rw [since_snoc]
  by_cases read : inner = .read
  · exact .inl (.inl (by rw [read]))
  cases heard : before.reloader.listening with
  | false => exact .inr (.inl (.of_new_listener moved heard listening))
  | true =>
      rcases attentive known found watching heard notFirst with since | pending | different
      · exact .inl (.inr ⟨since, rfl⟩)
      · refine .inr (.inl (pending.of_step orderly moved (fun _ => heard) (fun _ => ?_) read))
        rw [inFile]
        rfl
      · exact .inr (.inr different)

theorem attentive_of_changed (recorded : Recorded history before)
    (distinct : (stamps (history ++ [(before, step)]) after).Nodup)
    (change : step.isChange = true) (poller : after.poller = before.poller) :
    Attentive (history ++ [(before, step)]) after := by
  intro known found watching listening notFirst
  -- The poller knows an earlier state of the file, and all states differ.
  rw [stamps_snoc_of_change change] at distinct
  refine .inr (.inr fun same => ?_)
  have old := recorded _ known (poller ▸ watching) (.inl rfl)
  exact (List.nodup_append.mp distinct).2.2 known old after.modified List.mem_cons_self same

/-- A step that tells the poller nothing new about what it knows. -/
theorem attentive_keep (attentive : Attentive history before)
    (reloader : after.reloader = before.reloader) (modified : after.modified = before.modified)
    (notFirstLook : step ≠ .firstLook) (notRead : step ≠ .reload .read)
    (unchanged : step.isChange = false)
    (known : ∀ known found, after.poller = some ⟨some known, found⟩ →
      ∃ earlier, before.poller = some ⟨some known, earlier⟩) :
    Attentive (history ++ [(before, step)]) after := by
  intro now found watching listening notFirst
  obtain ⟨earlier, watched⟩ := known now found watching
  rw [since_keep notFirstLook unchanged] at notFirst
  rw [since_keep notRead unchanged, reloader, modified]
  rw [reloader] at listening
  exact attentive now earlier watched listening notFirst

theorem attentive_of_step {path : String} {disk : Disk} (attentive : Attentive history before)
    (recorded : Recorded history before) (orderly : before.reloader.Orderly)
    (inFile : before.reloader.source = .file path disk) (taken : before.step step = some after)
    (distinct : (stamps (history ++ [(before, step)]) after).Nodup) :
    Attentive (history ++ [(before, step)]) after := by
  cases transition_of_step taken with
  | reloaded moved aside => exact attentive_of_reloaded attentive orderly inFile moved
  | wrote moved => exact attentive_of_changed recorded distinct rfl rfl
  | deleted moved => exact attentive_of_changed recorded distinct rfl rfl
  | watched => exact attentive_keep attentive rfl rfl (by simp) (by simp) rfl (by simp)
  | unwatched => exact attentive_keep attentive rfl rfl (by simp) (by simp) rfl (by simp)
  | lookedFirst new =>
      intro known found watching listening notFirst
      exact absurd (since_snoc.mpr (.inl rfl)) notFirst
  | looked idle =>
      refine attentive_keep attentive rfl rfl (by simp) (by simp) rfl fun known found watching => ?_
      cases watching
      exact ⟨none, idle⟩
  | foundSame found =>
      refine attentive_keep attentive rfl rfl (by simp) (by simp) rfl fun known nothing watching => ?_
      cases watching
      exact ⟨_, found⟩
  | foundChanged looked different =>
      intro known nothing watching listening notFirst
      cases heard : before.reloader.listening with
      | true => exact .inr (.inl (.of_noticed (Reloader.noticed_announce heard)))
      | false => simp [Reloader.announce_deaf heard, heard] at listening
  | stoodAside aside =>
      have other : ∀ wanted, wanted.isAside = false → step ≠ wanted := by
        rintro wanted busy rfl
        simp [busy] at aside
      exact attentive_keep attentive rfl rfl (other _ rfl) (other _ rfl) (isChange_of_isAside aside)
        fun known found watching => ⟨found, watching⟩

structure Watched (history : List (Service × Step)) (service : Service) : Prop where
  read : Since (.reload .read) history → service.reloader.UpToDate (seen ending? history)
  looked : Since .look history → service.LookedAt
  recorded : Recorded history service
  attentive : Attentive history service

theorem not_since_nil : ¬Since wanted [] := by
  intro since
  obtain ⟨earlier, service, later, parts, _⟩ := since
  simp at parts

theorem Run.inFile {path : String} {disk : Disk} {final : Service}
    (run : Run (ofSource (.file path disk)) history final) :
    ∃ disk, final.reloader.source = .file path disk := by
  obtain ⟨reloads, inner, _⟩ := run.reloads
  exact inner.inFile

theorem Run.watched {path : String} {disk : Disk} {final : Service}
    (run : Run (ofSource (.file path disk)) history final)
    (distinct : (stamps history final).Nodup) : Watched history final := by
  induction run with
  | nil =>
      exact
        { read := fun since => absurd since not_since_nil
          looked := fun since => absurd since not_since_nil
          recorded := fun _ _ watching => by cases watching
          attentive := fun _ _ watching => by cases watching }
  | @snoc history before after step earlier taken ih =>
      have watched := ih (by
        rw [stamps_of_step taken] at distinct
        exact (List.nodup_append.mp distinct).1)
      obtain ⟨disk, inFile⟩ := Run.inFile earlier
      obtain ⟨reloads, inner, _⟩ := Run.reloads earlier
      exact
        { read := upToDate_of_step inFile watched.read taken
          looked := lookedAt_of_step watched.looked taken
          recorded := recorded_of_step watched.recorded taken
          attentive := attentive_of_step watched.attentive watched.recorded inner.orderly inFile
            taken distinct }

def WasRead (history : List (Service × Step)) (outcome : Except LoadError Catalog) : Prop :=
  ∃ service, (service, Step.reload .read) ∈ history ∧ service.source.content = outcome

theorem WasRead.snoc {outcome : Except LoadError Catalog} (read : WasRead history outcome) :
    WasRead (history ++ [(before, step)]) outcome := by
  obtain ⟨service, member, content⟩ := read
  exact ⟨service, List.mem_append_left _ member, content⟩

theorem loaded_of_step {path : String} {disk : Disk} {outcome : Except LoadError Catalog}
    (inFile : before.reloader.source = .file path disk) (taken : before.step step = some after)
    (loaded : after.reloader.load = some (.loaded outcome)) :
    before.reloader.load = some (.loaded outcome) ∨
      step = .reload .read ∧ before.source.content = outcome := by
  cases transition_of_step taken with
  | reloaded moved aside =>
      rcases Reloader.content_of_loaded inFile moved loaded with still | ⟨rfl, content⟩
      · exact .inl still
      · exact .inr ⟨rfl, content⟩
  | wrote moved =>
      rcases Reloader.content_of_loaded inFile moved loaded with still | ⟨other, _⟩
      · exact .inl still
      · cases other
  | deleted moved =>
      rcases Reloader.content_of_loaded inFile moved loaded with still | ⟨other, _⟩
      · exact .inl still
      · cases other
  | foundChanged looked different => exact .inl (before.reloader.announce_load ▸ loaded)
  | _ => exact .inl loaded

theorem Run.wasRead_of_loaded {path : String} {disk : Disk} {final : Service}
    {outcome : Except LoadError Catalog} (run : Run (ofSource (.file path disk)) history final)
    (loaded : final.reloader.load = some (.loaded outcome)) : WasRead history outcome := by
  induction run with
  | nil => cases loaded
  | @snoc history before after step earlier taken ih =>
      obtain ⟨disk, inFile⟩ := Run.inFile earlier
      rcases loaded_of_step inFile taken loaded with still | ⟨rfl, content⟩
      · exact (ih still).snoc
      · exact ⟨before, by simp, content⟩

/-- No load of a file comes to anything but what it has read. -/
theorem Run.wasRead_of_ended {path : String} {disk : Disk} {final : Service}
    {outcome : Except LoadError Catalog} (run : Run (ofSource (.file path disk)) history final)
    (ended : outcome ∈ seen ending? history) : WasRead history outcome := by
  induction run with
  | nil => cases ended
  | @snoc history before after step earlier taken ih =>
      rw [seen_snoc, List.mem_append] at ended
      rcases ended with old | new
      · exact (ih old).snoc
      · cases step with
        | reload inner =>
            have loaded := Reloader.loaded_of_ending? (Option.mem_toList.mp new)
            exact (Run.wasRead_of_loaded earlier loaded).snoc
        | _ => cases new

/-- What a load has read before the last change of the file. -/
def ReadBefore (history : List (Service × Step)) (catalog : Catalog) : Prop :=
  ∃ earlier service later, history = earlier ++ (service, .reload .read) :: later ∧
    service.source.content = .ok catalog ∧ ∃ entry ∈ later, entry.2.isChange = true

theorem WasRead.readBefore {catalog : Catalog} (read : WasRead history (.ok catalog))
    (notSince : ¬Since (.reload .read) history) : ReadBefore history catalog := by
  obtain ⟨service, member, content⟩ := read
  obtain ⟨earlier, later, parts⟩ := List.append_of_mem member
  by_cases changed : ∃ entry ∈ later, entry.2.isChange = true
  · exact ⟨earlier, service, later, parts, content, changed⟩
  · refine absurd ⟨earlier, service, later, parts, fun entry behind => ?_⟩ notSince
    exact Bool.eq_false_iff.mpr fun change => changed ⟨entry, behind, change⟩

theorem Settled.since_of_not_first {final : Service} (settled : Settled history final)
    (watched : Watched history final) (orderly : final.reloader.Orderly)
    (notFirst : ¬Since .firstLook history) : Since (.reload .read) history := by
  obtain ⟨known, watching⟩ := settled.compared
  have listening := orderly.workerListens settled.quiet.running
  rcases watched.attentive known none watching listening notFirst with since | pending | different
  · exact since
  · exact absurd pending settled.quiet.not_pending
  · exact absurd ((watched.looked settled.looked).known known watching) different

/-- A service that has settled has published what the file holds, unless the poller took for known
a change that no load had read.  Then it has published what was read before that change. -/
theorem published_unless_missed {path : String} {disk : Disk} {final : Service} {loaded : Catalog}
    (run : Run (ofSource (.file path disk)) history final)
    (distinct : (stamps history final).Nodup) (settled : Settled history final)
    (last : (seen ending? history).getLast? = some (.ok loaded)) :
    ∃ snapshot, final.current = some snapshot ∧
      (¬Missed history → final.source.content = .ok snapshot.catalog) ∧
      (Missed history → ReadBefore history snapshot.catalog) := by
  have watched := run.watched distinct
  obtain ⟨reloads, inner, sameEndings⟩ := run.reloads
  obtain ⟨snapshot, current, rfl⟩ := inner.current (by rw [sameEndings]; exact last)
  refine ⟨snapshot, current, fun notMissed => ?_, fun missed => ?_⟩
  · have since : Since (.reload .read) history := by
      by_cases first : Since .firstLook history
      · exact Classical.byContradiction fun notSince => notMissed ⟨first, notSince⟩
      · exact settled.since_of_not_first watched inner.orderly first
    have unread : ∀ outcome, final.reloader.load ≠ some (.loaded outcome) := by
      simp [inner.orderly.loadHasTurn settled.nobodyLoads]
    exact ((watched.read since).settled unread _ last).symm
  · exact (run.wasRead_of_ended (List.mem_of_getLast? last)).readBefore missed.2

theorem step_read {catalog : Catalog} (probed : before.reloader.load = some .probed)
    (content : before.source.content = .ok catalog) :
    before.step (.reload .read) =
      some { before with
        reloader := { before.reloader with load := some (.loaded (.ok catalog)) } } := by
  rw [Service.source] at content
  simp only [Service.step, Reloader.step, probed, content, Option.map_some]

/-- A write behind the first look of the poller is noticed, and read by a second load. -/
theorem exists_run_of_writeBehindFirstLook (path : String) {old new : ByteArray}
    {first second : Catalog} (readOld : Catalog.ofBytes old = .ok first)
    (readNew : Catalog.ofBytes new = .ok second) :
    ∃ history final, Run (ofSource (.file path (.file old))) history final ∧
      (stamps history final).Nodup ∧ Settled history final ∧
      (seen ending? history).getLast? = some (.ok second) ∧ ¬Missed history := by
  have start : Run (ofSource (.file path (.file old))) [] _ := .nil
  have probed := start.extend [.reload .start, .reload .look, .reload .begin, .reload .probe] rfl
  have read := probed.snoc (step_read rfl readOld)
  have noticed := read.extend
    [.reload .finish, .reload .look, .watch, .firstLook, .writeFile new, .look, .compare,
      .reload .take, .reload .begin, .reload .probe] rfl
  have readAgain := noticed.snoc (step_read rfl readNew)
  have run := readAgain.extend [.reload .finish, .reload .look] rfl
  have distinct : [some 0, (some 1 : Modified)].Nodup := by decide
  refine ⟨_, _, run, distinct, ?settled, rfl, ?read⟩
  case settled =>
    refine
      { looked := ⟨[_, _, _, _, _, _, _, _, _, _], _, [_, _, _, _, _, _, _], rfl, ?_⟩
        compared := ⟨some 1, rfl⟩
        quiet := .of_waiting rfl rfl rfl
        nobodyLoads := rfl }
    simp [Step.isChange]
  case read =>
    intro missed
    refine missed.2 ⟨[_, _, _, _, _, _, _, _, _, _, _, _, _, _, _], _, [_, _], rfl, ?_⟩
    simp [Step.isChange]

/-- A write between the first load and the first look of the poller is not noticed. -/
theorem exists_run_of_writeBeforeFirstLook (path : String) {old : ByteArray} (new : ByteArray)
    {first : Catalog} (readOld : Catalog.ofBytes old = .ok first) :
    ∃ history final, Run (ofSource (.file path (.file old))) history final ∧
      (stamps history final).Nodup ∧ Settled history final ∧
      (seen ending? history).getLast? = some (.ok first) ∧
      final.current = some ⟨1, first⟩ ∧ final.source = .file path (.file new) := by
  have start : Run (ofSource (.file path (.file old))) [] _ := .nil
  have probed := start.extend [.reload .start, .reload .look, .reload .begin, .reload .probe] rfl
  have read := probed.snoc (step_read rfl readOld)
  have run := read.extend
    [.reload .finish, .reload .look, .writeFile new, .watch, .firstLook, .look, .compare] rfl
  have distinct : [some 0, (some 1 : Modified)].Nodup := by decide
  refine ⟨_, _, run, distinct, ?_, rfl, rfl, rfl⟩
  refine
    { looked := ⟨[_, _, _, _, _, _, _, _, _, _], _, [_], rfl, ?_⟩
      compared := ⟨some 1, rfl⟩
      quiet := .of_waiting rfl rfl rfl
      nobodyLoads := rfl }
  simp [Step.isChange]

def noVersions : String := "[]"

def oneVersion : String := "[[\"1\",[[],[],[],[],[],[]]]]"

theorem ofBytes_noVersions : Catalog.ofBytes noVersions.toUTF8 = .ok .empty := by
  rw [Catalog.ofBytes, Symbol.ofBytes_toUTF8, noVersions, Symbol.ofString_ofList]
  rfl

theorem ofBytes_oneVersion :
    Catalog.ofBytes oneVersion.toUTF8 = .ok (SortedMap.empty.insert "1" .empty) := by
  rw [Catalog.ofBytes, Symbol.ofBytes_toUTF8, oneVersion, Symbol.ofString_ofList]
  rfl

theorem writeBehindFirstLook_published :
    ∃ history final, Run (ofSource (.file "content.json" (.file noVersions.toUTF8))) history final ∧
      (stamps history final).Nodup ∧ Settled history final ∧
      (seen ending? history).getLast? = some (.ok (SortedMap.empty.insert "1" .empty)) ∧
      ∃ snapshot, final.current = some snapshot ∧
        final.source.content = .ok snapshot.catalog := by
  obtain ⟨history, final, run, distinct, settled, last, noticed⟩ :=
    exists_run_of_writeBehindFirstLook "content.json" ofBytes_noVersions ofBytes_oneVersion
  obtain ⟨snapshot, current, fresh, _⟩ := published_unless_missed run distinct settled last
  exact ⟨history, final, run, distinct, settled, last, snapshot, current, fresh noticed⟩

theorem writeBeforeFirstLook_unpublished :
    ∃ history final, Run (ofSource (.file "content.json" (.file noVersions.toUTF8))) history final ∧
      (stamps history final).Nodup ∧ Settled history final ∧
      (seen ending? history).getLast? = some (.ok .empty) ∧
      ¬∃ snapshot, final.current = some snapshot ∧
        final.source.content = .ok snapshot.catalog := by
  obtain ⟨history, final, run, distinct, settled, last, current, source⟩ :=
    exists_run_of_writeBeforeFirstLook "content.json" oneVersion.toUTF8 ofBytes_noVersions
  refine ⟨history, final, run, distinct, settled, last, ?_⟩
  intro published
  obtain ⟨snapshot, holds, content⟩ := published
  rw [current] at holds
  cases holds
  rw [source, Source.content, ofBytes_oneVersion] at content
  cases content

end Service

end Audience
