import Mathlib.Data.List.Induction
import Audience.Settings.Basic

namespace Audience

/-! What layers of settings come to when one covers the other.

Every setting is merged by itself.  The highest layer that sets it decides, a section that leaves it
open takes nothing away, and what no layer sets has its default.  Only the values that come out of
this are checked.
-/

/-- The settings of the program. -/
inductive Setting where
  | path
  | pollIntervalMs
  | defaultVersion
  | startupTimeoutSecs
  | level
deriving Repr, DecidableEq

namespace Setting

@[reducible] def type : Setting → Type
  | path | defaultVersion | level => String
  | pollIntervalMs | startupTimeoutSecs => Nat

/-- The value of a setting that is not set anywhere. -/
def fallback : (setting : Setting) → setting.type
  | path => "./data/content.json"
  | pollIntervalMs => (2000 : Nat)
  | defaultVersion => "2.2"
  | startupTimeoutSecs => (30 : Nat)
  | level => "info"

end Setting

/-- The value that a layer sets. -/
def SettingsLayer.value? (layer : SettingsLayer) : (setting : Setting) → Option setting.type
  | .path => layer.storage.bind StorageLayer.path
  | .pollIntervalMs => layer.storage.bind StorageLayer.pollIntervalMs
  | .defaultVersion => layer.content.bind ContentLayer.defaultVersion
  | .startupTimeoutSecs => layer.content.bind ContentLayer.startupTimeoutSecs
  | .level => layer.logging.bind LoggingLayer.level

namespace Settings

def value (settings : Settings) : (setting : Setting) → setting.type
  | .path => settings.storage.path
  | .pollIntervalMs => settings.storage.pollIntervalMs
  | .defaultVersion => settings.content.defaultVersion
  | .startupTimeoutSecs => settings.content.startupTimeoutSecs
  | .level => settings.logging.level

/-- The settings are fit for use. -/
structure Sound (settings : Settings) : Prop where
  pollIntervalMs : settings.value .pollIntervalMs ≠ 0
  path : settings.value .path ≠ ""
  defaultVersion : ∃ c ∈ (settings.value .defaultVersion).toList, isBlank c = false

variable {settings others : Settings}

theorem eq_of_value (same : ∀ setting, settings.value setting = others.value setting) :
    settings = others := by
  obtain ⟨⟨path, pollIntervalMs⟩, ⟨defaultVersion, startupTimeoutSecs⟩, ⟨level⟩⟩ := settings
  obtain rfl := same .path
  obtain rfl := same .pollIntervalMs
  obtain rfl := same .defaultVersion
  obtain rfl := same .startupTimeoutSecs
  obtain rfl := same .level
  rfl

theorem problem?_eq_none_iff : settings.problem? = none ↔ settings.Sound := by
  have blank : allBlank settings.content.defaultVersion = false ↔
      ∃ c ∈ (settings.value .defaultVersion).toList, isBlank c = false := by
    simp [allBlank, value]
  constructor
  · intro unproblematic
    simp only [problem?] at unproblematic
    split at unproblematic
    · contradiction
    next interval =>
      split at unproblematic
      · contradiction
      next path =>
        split at unproblematic
        · contradiction
        next version =>
          exact ⟨interval, path, blank.mp (Bool.eq_false_iff.mpr version)⟩
  · intro sound
    have interval : settings.storage.pollIntervalMs ≠ 0 := sound.pollIntervalMs
    have path : settings.storage.path ≠ "" := sound.path
    simp [problem?, interval, path, blank.mpr sound.defaultVersion]

/-- Settings after the check: themselves, or their first problem. -/
def checked (settings : Settings) : Except SettingsError Settings :=
  match settings.problem? with
  | some problem => .error (.invalid problem)
  | none => .ok settings

theorem checked_ok_iff : settings.checked = .ok others ↔ settings.Sound ∧ others = settings := by
  rw [checked, ← problem?_eq_none_iff]
  cases settings.problem? <;> simp [eq_comm]

end Settings

namespace SettingsLayer

variable {lower upper layer : SettingsLayer} {layers others : List SettingsLayer}
  {setting : Setting} {value : setting.type}

theorem finalize_eq (layer : SettingsLayer) : layer.finalize = layer.withDefaults.checked := rfl

/-- A setting of a section in both layers is taken from the upper one, if that one sets it. -/
theorem bind_mergeSection {α β : Type} {merge : α → α → α} {field : α → Option β}
    (covers : ∀ lower upper, field (merge lower upper) = (field upper).or (field lower))
    (lower upper : Option α) : (mergeSection merge lower upper).bind field =
      (upper.bind field).or (lower.bind field) := by
  cases lower <;> cases upper <;> simp [mergeSection, covers]

theorem mergeSection_assoc {α : Type} {merge : α → α → α}
    (assoc : ∀ first second third,
      merge (merge first second) third = merge first (merge second third))
    (first second third : Option α) :
    mergeSection merge (mergeSection merge first second) third =
      mergeSection merge first (mergeSection merge second third) := by
  cases first <;> cases second <;> cases third <;> simp [mergeSection, assoc]

theorem merge_assoc (first second third : SettingsLayer) :
    (first.merge second).merge third = first.merge (second.merge third) := by
  have storage : ∀ one two three : StorageLayer,
      (one.merge two).merge three = one.merge (two.merge three) := by
    simp [StorageLayer.merge, Option.or_assoc]
  have content : ∀ one two three : ContentLayer,
      (one.merge two).merge three = one.merge (two.merge three) := by
    simp [ContentLayer.merge, Option.or_assoc]
  have logging : ∀ one two three : LoggingLayer,
      (one.merge two).merge three = one.merge (two.merge three) := by
    simp [LoggingLayer.merge, Option.or_assoc]
  simp only [merge, mergeSection_assoc storage, mergeSection_assoc content,
    mergeSection_assoc logging]

@[simp] theorem empty_merge (layer : SettingsLayer) : empty.merge layer = layer := by
  obtain ⟨storage, content, logging⟩ := layer
  cases storage <;> cases content <;> cases logging <;> rfl

@[simp] theorem merge_empty (layer : SettingsLayer) : layer.merge empty = layer := by
  obtain ⟨storage, content, logging⟩ := layer
  cases storage <;> cases content <;> cases logging <;> rfl

@[simp] theorem value?_empty (setting : Setting) : empty.value? setting = none := by
  cases setting <;> rfl

theorem value?_merge (lower upper : SettingsLayer) (setting : Setting) :
    (lower.merge upper).value? setting = (upper.value? setting).or (lower.value? setting) := by
  cases setting with
  | path | pollIntervalMs =>
      exact bind_mergeSection (fun _ _ => rfl) lower.storage upper.storage
  | defaultVersion | startupTimeoutSecs =>
      exact bind_mergeSection (fun _ _ => rfl) lower.content upper.content
  | level => exact bind_mergeSection (fun _ _ => rfl) lower.logging upper.logging

theorem value_withDefaults (layer : SettingsLayer) (setting : Setting) :
    layer.withDefaults.value setting = (layer.value? setting).getD setting.fallback := by
  obtain ⟨storage, content, logging⟩ := layer
  cases setting with
  | path | pollIntervalMs => cases storage <;> rfl
  | defaultVersion | startupTimeoutSecs => cases content <;> rfl
  | level => cases logging <;> rfl

theorem mergeAll_append_singleton (layers : List SettingsLayer) (layer : SettingsLayer) :
    mergeAll (layers ++ [layer]) = (mergeAll layers).merge layer := by
  simp [mergeAll]

/-- A layer sets a value, and no layer above it sets another. -/
def LastSet (layers : List SettingsLayer) (setting : Setting) (value : setting.type) : Prop :=
  ∃ below layer above, layers = below ++ layer :: above ∧ layer.value? setting = some value ∧
    ∀ later ∈ above, later.value? setting = none

theorem lastSet_append_singleton : LastSet (layers ++ [layer]) setting value ↔
    layer.value? setting = some value ∨
      layer.value? setting = none ∧ LastSet layers setting value := by
  constructor
  · rintro ⟨below, found, above, parts, sets, silent⟩
    rcases List.eq_nil_or_concat above with rfl | ⟨between, last, rfl⟩
    · obtain ⟨-, same⟩ := List.append_inj' parts rfl
      cases same
      exact .inl sets
    · have split : layers ++ [layer] = (below ++ found :: between) ++ [last] := by simpa using parts
      obtain ⟨rfl, same⟩ := List.append_inj' split rfl
      cases same
      exact .inr ⟨silent layer (by simp), below, found, between, rfl, sets,
        fun later member => silent later (by simp [member])⟩
  · rintro (sets | ⟨leavesOpen, below, found, above, rfl, sets, silent⟩)
    · exact ⟨layers, layer, [], rfl, sets, by simp⟩
    · refine ⟨below, found, above ++ [layer], by simp, sets, ?_⟩
      simpa [or_imp, forall_and] using ⟨silent, leavesOpen⟩

theorem value?_mergeAll_eq_some_iff :
    (mergeAll layers).value? setting = some value ↔ LastSet layers setting value := by
  induction layers using List.reverseRecOn with
  | nil => simp [mergeAll, LastSet]
  | append_singleton layers layer ih =>
      rw [mergeAll_append_singleton, value?_merge, lastSet_append_singleton, Option.or_eq_some_iff,
        ih]

theorem value?_mergeAll_eq_none_iff :
    (mergeAll layers).value? setting = none ↔ ∀ layer ∈ layers, layer.value? setting = none := by
  induction layers using List.reverseRecOn with
  | nil => simp [mergeAll]
  | append_singleton layers layer ih =>
      rw [mergeAll_append_singleton, value?_merge, Option.or_eq_none_iff, ih]
      simp [or_imp, forall_and, and_comm]

/-- What a list of layers gives a setting: the value set last, or else its default. -/
def Settles (layers : List SettingsLayer) (setting : Setting) (value : setting.type) : Prop :=
  LastSet layers setting value ∨
    (∀ layer ∈ layers, layer.value? setting = none) ∧ value = setting.fallback

theorem settles_iff :
    Settles layers setting value ↔ (mergeAll layers).withDefaults.value setting = value := by
  rw [Settles, ← value?_mergeAll_eq_some_iff, ← value?_mergeAll_eq_none_iff, value_withDefaults]
  cases (mergeAll layers).value? setting <;> simp [eq_comm]

/-- Layers that merge to the same values have the same outcome. -/
theorem finalize_mergeAll_congr
    (same : ∀ setting, (mergeAll layers).value? setting = (mergeAll others).value? setting) :
    (mergeAll layers).finalize = (mergeAll others).finalize := by
  have settings : (mergeAll layers).withDefaults = (mergeAll others).withDefaults := by
    refine Settings.eq_of_value fun setting => ?_
    rw [value_withDefaults, value_withDefaults, same]
  rw [finalize_eq, finalize_eq, settings]

theorem value?_mergeAll_append (layers others : List SettingsLayer) (setting : Setting) :
    (mergeAll (layers ++ others)).value? setting =
      ((mergeAll others).value? setting).or ((mergeAll layers).value? setting) := by
  induction others using List.reverseRecOn with
  | nil => simp [mergeAll]
  | append_singleton others layer ih =>
      rw [← List.append_assoc, mergeAll_append_singleton, mergeAll_append_singleton, value?_merge,
        value?_merge, ih, Option.or_assoc]

/-- What a layer sets plays no part when a layer above it sets it anew. -/
theorem finalize_of_overridden {below above : List SettingsLayer} {layer other : SettingsLayer}
    (overridden : ∀ setting, layer.value? setting ≠ other.value? setting →
      ∃ later ∈ above, later.value? setting ≠ none) :
    (mergeAll (below ++ layer :: above)).finalize =
      (mergeAll (below ++ other :: above)).finalize := by
  refine finalize_mergeAll_congr fun setting => ?_
  have split : ∀ layer : SettingsLayer, below ++ layer :: above = (below ++ [layer]) ++ above := by
    simp
  rw [split, split, value?_mergeAll_append, value?_mergeAll_append _ above]
  cases decided : (mergeAll above).value? setting with
  | some value => simp
  | none =>
      have silent := value?_mergeAll_eq_none_iff.mp decided
      have same : layer.value? setting = other.value? setting := by
        by_contra different
        obtain ⟨later, member, sets⟩ := overridden setting different
        exact sets (silent later member)
      rw [mergeAll_append_singleton, mergeAll_append_singleton, value?_merge, value?_merge, same]

/-- What merging means, and what a list of layers comes to by it. -/
structure Merged (layers : List SettingsLayer) : Prop where
  associative : ∀ first second third : SettingsLayer,
    (first.merge second).merge third = first.merge (second.merge third)
  neutral : ∀ layer : SettingsLayer, empty.merge layer = layer ∧ layer.merge empty = layer
  /-- Each setting has the value set last, whatever becomes of the others. -/
  set : ∀ setting value,
    (mergeAll layers).value? setting = some value ↔ LastSet layers setting value
  leftOpen : ∀ setting, (mergeAll layers).value? setting = none ↔
    ∀ layer ∈ layers, layer.value? setting = none
  /-- With defaults for what is left open, sound values are the settings. -/
  settled : ∃ settings : Settings,
    (∀ setting value, Settles layers setting value ↔ settings.value setting = value) ∧
    ((∃ final, (mergeAll layers).finalize = .ok final) ↔ settings.Sound) ∧
    ∀ final, (mergeAll layers).finalize = .ok final → final = settings
  /-- It does not matter what a layer sets that layers above it set anew. -/
  overridden : ∀ below above layer other, layers = below ++ layer :: above →
    (∀ setting, layer.value? setting ≠ other.value? setting →
      ∃ later ∈ above, later.value? setting ≠ none) →
    (mergeAll layers).finalize = (mergeAll (below ++ other :: above)).finalize

/-- Every setting is merged by itself, and only what comes out of it is checked. -/
theorem mergeAll_settles (layers : List SettingsLayer) : Merged layers where
  associative := merge_assoc
  neutral := fun layer => ⟨empty_merge layer, merge_empty layer⟩
  set := fun _ _ => value?_mergeAll_eq_some_iff
  leftOpen := fun _ => value?_mergeAll_eq_none_iff
  settled := by
    refine ⟨(mergeAll layers).withDefaults, fun _ _ => settles_iff, ?_, ?_⟩
    · simp [finalize_eq, Settings.checked_ok_iff]
    · intro final finalized
      exact (Settings.checked_ok_iff.mp finalized).2
  overridden := by
    rintro below above layer other rfl overridden
    exact finalize_of_overridden overridden

/-- A layer that would be refused by itself. -/
def neverPolling : SettingsLayer := ⟨some ⟨none, some 0⟩, none, none⟩

def oftenPolling : SettingsLayer := ⟨some ⟨none, some 250⟩, none, none⟩

theorem neverPolling_overridden :
    LastSet [neverPolling, oftenPolling] .pollIntervalMs (250 : Nat) ∧
      (∃ later ∈ [oftenPolling], later.value? .pollIntervalMs ≠ none) ∧
      (mergeAll [neverPolling, oftenPolling]).finalize =
        (mergeAll [empty, oftenPolling]).finalize ∧
      ∃ final, (mergeAll [neverPolling, oftenPolling]).finalize = .ok final := by
  have merged := mergeAll_settles [neverPolling, oftenPolling]
  obtain ⟨settings, settles, succeeds, -⟩ := merged.settled
  have anew : ∃ later ∈ [oftenPolling], later.value? .pollIntervalMs ≠ none := by decide
  have last := (merged.set .pollIntervalMs (250 : Nat)).mp rfl
  refine ⟨last, anew, merged.overridden [] [oftenPolling] neverPolling empty rfl ?_, ?_⟩
  · intro setting different
    cases setting with
    | pollIntervalMs => exact anew
    | path | defaultVersion | startupTimeoutSecs | level => exact absurd rfl different
  · have path := (settles .path "./data/content.json").mp (.inr (by decide))
    have interval := (settles .pollIntervalMs (250 : Nat)).mp (.inl last)
    have version := (settles .defaultVersion "2.2").mp (.inr (by decide))
    refine succeeds.mpr ⟨?_, ?_, ?_⟩
    · rw [interval]
      decide
    · rw [path]
      decide
    · rw [version]
      exact ⟨'2', by decide, by decide⟩

end SettingsLayer

end Audience
