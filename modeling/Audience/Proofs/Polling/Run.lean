import Audience.Proofs.Reload.Run
import Audience.Service.Basic

namespace Audience

/-! Runs of a service whose content file is looked after by a poller.

A run of a service holds a run of its reloader, so what is proved about reloaders can be used here.
`Since` tells what was done behind the last change of the file.
-/

namespace Reloader

variable {reloader : Reloader}

theorem notify_eq_announce (listening : reloader.listening = true) :
    reloader.step .notify = some reloader.announce := by
  simp [Reloader.step, announce, listening]

theorem announce_deaf (deaf : reloader.listening = false) : reloader.announce = reloader := by
  simp [announce, deaf]

theorem noticed_announce (listening : reloader.listening = true) :
    Noticed reloader reloader.announce := by
  rw [announce, if_pos listening]
  exact noticed_notify reloader

@[simp] theorem announce_source (reloader : Reloader) :
    reloader.announce.source = reloader.source := by
  cases listening : reloader.listening with
  | true => exact (noticed_announce listening).source
  | false => rw [announce_deaf listening]

@[simp] theorem announce_load (reloader : Reloader) : reloader.announce.load = reloader.load := by
  cases listening : reloader.listening with
  | true => exact (noticed_announce listening).load
  | false => rw [announce_deaf listening]

end Reloader

namespace Service

def Step.isChange : Step → Bool
  | writeFile _ | deleteFile => true
  | _ => false

/-- A step touches neither the reloader nor the file nor the poller. -/
def Step.isAside : Step → Bool
  | ask _ | answer _ | giveUp _ | check => true
  | _ => false

inductive Transition (before : Service) : Step → Service → Prop where
  | reloaded {inner : Reloader.Step} {reloader : Reloader}
      (moved : before.reloader.step inner = some reloader)
      (aside : ∀ disk, inner ≠ .setDisk disk) :
      Transition before (.reload inner) { before with reloader }
  | wrote {bytes : ByteArray} {reloader : Reloader}
      (moved : before.reloader.step (.setDisk (.file bytes)) = some reloader) :
      Transition before (.writeFile bytes)
        { before with
          reloader, writes := before.writes + 1, modified := some (before.writes + 1) }
  | deleted {reloader : Reloader}
      (moved : before.reloader.step (.setDisk .missing) = some reloader) :
      Transition before .deleteFile { before with reloader, modified := none }
  | watched : Transition before .watch { before with poller := some ⟨none, none⟩ }
  | unwatched : Transition before .unwatch { before with poller := none }
  | lookedFirst (new : before.poller = some ⟨none, none⟩) :
      Transition before .firstLook { before with poller := some ⟨some before.modified, none⟩ }
  | looked {known : Modified} (idle : before.poller = some ⟨some known, none⟩) :
      Transition before .look
        { before with poller := some ⟨some known, some before.modified⟩ }
  | foundSame {known : Modified} (found : before.poller = some ⟨some known, some known⟩) :
      Transition before .compare { before with poller := some ⟨some known, none⟩ }
  | foundChanged {known found : Modified} (looked : before.poller = some ⟨some known, some found⟩)
      (different : found ≠ known) :
      Transition before .compare
        { before with poller := some ⟨some found, none⟩, reloader := before.reloader.announce }
  | stoodAside {step : Step} {waiting : List Nat} {checks : Nat} (aside : step.isAside = true) :
      Transition before step { before with waiting, checks }

variable {before after : Service} {step : Step}

theorem transition_of_step (taken : before.step step = some after) :
    Transition before step after := by
  cases step with
  | reload inner =>
      have aside : ∀ disk, inner ≠ .setDisk disk := by
        rintro disk rfl
        simp [Service.step] at taken
      rw [Service.step] at taken
      · obtain ⟨reloader, moved, rfl⟩ := Option.map_eq_some_iff.mp taken
        exact .reloaded moved aside
      · exact aside
  | writeFile bytes =>
      obtain ⟨reloader, moved, rfl⟩ := Option.map_eq_some_iff.mp taken
      exact .wrote moved
  | deleteFile =>
      obtain ⟨reloader, moved, rfl⟩ := Option.map_eq_some_iff.mp taken
      exact .deleted moved
  | watch =>
      cases taken
      exact .watched
  | unwatch =>
      cases taken
      exact .unwatched
  | firstLook =>
      simp only [Service.step] at taken
      split at taken
      · next new =>
          cases taken
          exact .lookedFirst new
      · cases taken
  | look =>
      simp only [Service.step] at taken
      split at taken
      · next known idle =>
          cases taken
          exact .looked idle
      · cases taken
  | compare =>
      simp only [Service.step] at taken
      split at taken
      · next known found looked =>
          split at taken
          · next same =>
              subst same
              cases taken
              exact .foundSame looked
          · next different =>
              cases taken
              exact .foundChanged looked different
      · cases taken
  | ask ticket =>
      cases taken
      exact .stoodAside rfl
  | answer ticket =>
      simp only [Service.step] at taken
      split at taken
      · cases taken
        exact .stoodAside rfl
      · cases taken
  | giveUp ticket =>
      simp only [Service.step] at taken
      split at taken
      · cases taken
        exact .stoodAside rfl
      · cases taken
  | check =>
      cases taken
      exact .stoodAside rfl

abbrev Run : Service → List (Service × Step) → Service → Prop := Trace Service.step

def ending? (service : Service) : Step → Option (Except LoadError Catalog)
  | .reload inner => service.reloader.ending? inner
  | _ => none

theorem ending?_of_isAside (service : Service) (aside : step.isAside = true) :
    service.ending? step = none := by
  cases step with
  | reload inner => simp [Step.isAside] at aside
  | _ => rfl

/-- A run of a service is one of its reloader, with the same endings of loads. -/
theorem Run.reloads {source : Source} {history : List (Service × Step)} {final : Service}
    (run : Run (ofSource source) history final) :
    ∃ reloads, Reloader.Run (.ofSource source) reloads final.reloader ∧
      seen Reloader.ending? reloads = seen ending? history := by
  induction run with
  | nil => exact ⟨[], .nil, rfl⟩
  | @snoc history before after step earlier taken ih =>
      obtain ⟨reloads, inner, same⟩ := ih
      cases transition_of_step taken with
      | reloaded moved aside => exact ⟨_, inner.snoc moved, by simp [same, ending?]⟩
      | wrote moved => exact ⟨_, inner.snoc moved, by simp [same, ending?, Reloader.ending?]⟩
      | deleted moved => exact ⟨_, inner.snoc moved, by simp [same, ending?, Reloader.ending?]⟩
      | foundChanged looked different =>
          cases listening : before.reloader.listening with
          | true =>
              exact ⟨_, inner.snoc (Reloader.notify_eq_announce listening),
                by simp [same, ending?, Reloader.ending?]⟩
          | false =>
              refine ⟨reloads, ?_, by simp [same, ending?]⟩
              rw [Reloader.announce_deaf listening]
              exact inner
      | stoodAside aside =>
          exact ⟨reloads, inner, by simp [same, ending?_of_isAside before aside]⟩
      | _ => exact ⟨reloads, inner, by simp [same, ending?]⟩

end Service

end Audience
