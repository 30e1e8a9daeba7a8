import Mathlib.Data.List.Nodup
import Audience.Proofs.Json.Scanned
import Audience.Proofs.Lines
import Audience.Proofs.Settings.Layers
import Audience.Settings.Source

namespace Audience

/-! Which source decides a setting.

Sources are read by rising precedence, so their precedences tell the outcome and the order in which
they are listed does not.  Of the standard sources the environment counts most: a text in the
variable of a setting covers the file unless it is empty, and one that should be a number and is not
is an error.  A variable whose value is no text is passed over.
-/

/-- A text that writes a natural number of 64 bits in decimal digits, with or without a plus. -/
def WritesNatural64 (text : String) (number : Nat) : Prop :=
  ∃ digits, digits ≠ [] ∧ (∀ digit ∈ digits, digit < 10) ∧
    (text.toList = Digits.chars digits ∨ text.toList = '+' :: Digits.chars digits) ∧
    Digits.value digits = number ∧ number < Numeral.wordLimit

section

variable {c : Char} {digit number : Nat} {digits : List Nat} {chars : List Char} {text : String}

theorem Digits.ofChar?_eq_some_iff :
    Digits.ofChar? c = some digit ↔ digit < 10 ∧ Digits.toChar digit = c := by
  constructor
  · intro read
    simp only [Digits.ofChar?, Option.ite_none_right_eq_some, Option.some.injEq] at read
    obtain ⟨⟨lower, upper⟩, rfl⟩ := read
    have low : '0'.toNat ≤ c.toNat := lower
    have high : c.toNat ≤ '9'.toNat := upper
    have code : '0'.toNat + (c.toNat - '0'.toNat) = c.toNat := by omega
    refine ⟨?_, ?_⟩
    · have nine : '9'.toNat = '0'.toNat + 9 := rfl
      omega
    · rw [Digits.toChar, code, Char.ofNat_toNat]
  · rintro ⟨decimal, rfl⟩
    exact Digits.ofChar?_toChar decimal

theorem Digits.mapM_ofChar?_eq_some_iff : chars.mapM Digits.ofChar? = some digits ↔
    chars = Digits.chars digits ∧ ∀ digit ∈ digits, digit < 10 := by
  induction chars generalizing digits with
  | nil => cases digits <;> simp [Digits.chars]
  | cons c rest ih =>
      cases digits with
      | nil => simp [Option.bind_eq_some_iff, Digits.chars]
      | cons digit others =>
          simp only [List.mapM_cons, Option.pure_def, Option.bind_eq_bind,
            Option.bind_eq_some_iff, Option.some.injEq, List.cons.injEq, ih, Digits.chars,
            List.map_cons, List.forall_mem_cons, Digits.ofChar?_eq_some_iff]
          constructor
          · rintro ⟨_, ⟨decimal, rfl⟩, _, ⟨rfl, others⟩, rfl, rfl⟩
            exact ⟨⟨rfl, rfl⟩, decimal, others⟩
          · rintro ⟨⟨rfl, rfl⟩, decimal, others⟩
            exact ⟨_, ⟨decimal, rfl⟩, _, ⟨rfl, others⟩, rfl, rfl⟩

theorem Numeral.word?_eq_some_iff : Numeral.word? chars = some number ↔
    ∃ digits, digits ≠ [] ∧ (∀ digit ∈ digits, digit < 10) ∧ chars = Digits.chars digits ∧
      Digits.value digits = number ∧ number < Numeral.wordLimit := by
  simp only [Numeral.word?, Option.bind_eq_bind, Option.bind_eq_some_iff,
    Digits.mapM_ofChar?_eq_some_iff, Option.ite_none_left_eq_some, Option.some.injEq, not_or,
    List.isEmpty_iff, Nat.not_le]
  constructor
  · rintro ⟨digits, ⟨rfl, decimal⟩, ⟨nonempty, small⟩, rfl⟩
    exact ⟨digits, nonempty, decimal, rfl, rfl, small⟩
  · rintro ⟨digits, nonempty, decimal, rfl, rfl, small⟩
    exact ⟨digits, ⟨rfl, decimal⟩, ⟨nonempty, small⟩, rfl⟩

theorem Digits.chars_ne_plus (decimal : ∀ digit ∈ digits, digit < 10) (rest : List Char) :
    Digits.chars digits ≠ '+' :: rest := by
  intro same
  cases digits with
  | nil => simp [Digits.chars] at same
  | cons digit others =>
      have all : ∀ digit < 10, Digits.toChar digit ≠ '+' := by decide
      exact all digit (decimal digit List.mem_cons_self) (List.cons.inj same).1

theorem natural64?_eq_some_iff : natural64? text = some number ↔ WritesNatural64 text number := by
  rw [natural64?, WritesNatural64]
  split
  next rest parts =>
    rw [Numeral.word?_eq_some_iff]
    refine exists_congr fun digits => and_congr_right fun _ => and_congr_right fun decimal => ?_
    simp [parts, (Digits.chars_ne_plus decimal rest).symm]
  next other =>
    rw [Numeral.word?_eq_some_iff]
    refine exists_congr fun digits => and_congr_right fun _ => and_congr_right fun _ => ?_
    have unsigned : text.toList ≠ '+' :: Digits.chars digits := other _
    simp [unsigned]

end

namespace SettingsSource

variable {sources others : List SettingsSource} {source : SettingsSource}
  {layers : List SettingsLayer} {setting : Setting} {value : setting.type} {cause : SettingsError}

def Loads (source : SettingsSource) : Prop := ∃ layer, source.layer = .ok layer

/-- A source loads, and its layer sets a value. -/
def Sets (source : SettingsSource) (setting : Setting) (value : setting.type) : Prop :=
  ∃ layer, source.layer = .ok layer ∧ layer.value? setting = some value

/-- A source loads, and its layer does not set a value. -/
def LeavesOpen (source : SettingsSource) (setting : Setting) : Prop :=
  ∃ layer, source.layer = .ok layer ∧ layer.value? setting = none

/-- What sources give a setting: the value of the source of highest precedence that sets it, or else
its default. -/
def Settle (sources : List SettingsSource) (setting : Setting) (value : setting.type) : Prop :=
  (∃ source ∈ sources, source.Sets setting value ∧
    ∀ other ∈ sources, source.precedence < other.precedence → other.LeavesOpen setting) ∨
  (∀ source ∈ sources, source.LeavesOpen setting) ∧ value = setting.fallback

theorem perm_ranked (sources : List SettingsSource) : (ranked sources).Perm sources :=
  List.mergeSort_perm ..

theorem ascending_ranked (distinct : (sources.map precedence).Nodup) :
    (ranked sources).Pairwise fun first second => first.precedence < second.precedence := by
  have sorted : (ranked sources).Pairwise fun first second =>
      first.precedence ≤ second.precedence := by
    have merged : (ranked sources).Pairwise fun first second =>
        decide (first.precedence ≤ second.precedence) := by
      refine List.pairwise_mergeSort ?_ ?_ sources
      · simpa using fun _ _ _ => Nat.le_trans
      · simpa using fun _ _ => Nat.le_total _ _
    simpa only [decide_eq_true_eq] using merged
  have apart := List.pairwise_map.mp (((perm_ranked sources).map precedence).nodup_iff.mpr distinct)
  exact sorted.imp₂ (fun _ _ => Nat.lt_of_le_of_ne) apart

/-- Sources of different precedences have one ranking, however they are listed. -/
theorem ranked_of_perm (distinct : (sources.map precedence).Nodup)
    (permutation : sources.Perm others) : ranked others = ranked sources := by
  have othersDistinct := (permutation.map precedence).nodup_iff.mp distinct
  have same := (perm_ranked others).trans (permutation.symm.trans (perm_ranked sources).symm)
  refine same.eq_of_pairwise ?_ (ascending_ranked othersDistinct) (ascending_ranked distinct)
  intro first second _ _ below above
  exact absurd above (Nat.lt_asymm below)

theorem exists_layers (load : ∀ source ∈ sources, source.Loads) :
    ∃ layers : List SettingsLayer, sources.map layer = layers.map .ok := by
  induction sources with
  | nil => exact ⟨[], rfl⟩
  | cons source rest ih =>
      obtain ⟨⟨layer, loaded⟩, restLoad⟩ := List.forall_mem_cons.mp load
      obtain ⟨layers, restLoaded⟩ := ih restLoad
      exact ⟨layer :: layers, by simp [loaded, restLoaded]⟩

theorem foldlM_cover_of_layers (loaded : sources.map layer = layers.map .ok)
    (merged : SettingsLayer) :
    sources.foldlM cover merged = .ok (layers.foldl SettingsLayer.merge merged) := by
  induction sources generalizing layers merged with
  | nil =>
      cases layers with
      | nil => rfl
      | cons => simp at loaded
  | cons source rest ih =>
      cases layers with
      | nil => simp at loaded
      | cons layer layers =>
          obtain ⟨here, later⟩ := List.cons.inj loaded
          have covered : cover merged source = .ok (merged.merge layer) := by
            rw [cover, here]
            rfl
          rw [List.foldlM_cons, covered, List.foldl_cons]
          exact ih later (merged.merge layer)

/-- The last layer that sets a value is that of the highest source that does. -/
theorem lastSet_iff (loaded : sources.map layer = layers.map .ok)
    (ascending : sources.Pairwise fun first second => first.precedence < second.precedence) :
    SettingsLayer.LastSet layers setting value ↔
      ∃ source ∈ sources, source.Sets setting value ∧
        ∀ other ∈ sources, source.precedence < other.precedence → other.LeavesOpen setting := by
  constructor
  · rintro ⟨below, found, above, rfl, sets, silent⟩
    rw [List.map_append, List.map_cons] at loaded
    obtain ⟨lower, rest, rfl, -, restLoaded⟩ := List.map_eq_append_iff.mp loaded
    obtain ⟨source, upper, rfl, here, upperLoaded⟩ := List.map_eq_cons_iff.mp restLoaded
    refine ⟨source, by simp, ⟨found, here, sets⟩, fun other member higher => ?_⟩
    have isUpper : other ∈ upper := by
      rcases List.mem_append.mp member with early | late
      · have smaller := (List.pairwise_append.mp ascending).2.2 other early source (by simp)
        exact absurd higher (Nat.lt_asymm smaller)
      · rcases List.mem_cons.mp late with rfl | later
        · exact absurd higher (Nat.lt_irrefl _)
        · exact later
    have isLoaded := List.mem_map_of_mem (f := layer) isUpper
    rw [upperLoaded] at isLoaded
    obtain ⟨later, laterMember, same⟩ := List.mem_map.mp isLoaded
    exact ⟨later, same.symm, silent later laterMember⟩
  · rintro ⟨source, member, ⟨found, here, sets⟩, higherOpen⟩
    obtain ⟨lower, upper, rfl⟩ := List.append_of_mem member
    rw [List.map_append, List.map_cons, here] at loaded
    obtain ⟨below, rest, rfl, -, restLoaded⟩ := List.map_eq_append_iff.mp loaded.symm
    obtain ⟨same, above, rfl, sameLayer, aboveLoaded⟩ := List.map_eq_cons_iff.mp restLoaded
    cases sameLayer
    refine ⟨below, found, above, rfl, sets, fun later laterMember => ?_⟩
    have isLoaded := List.mem_map_of_mem (f := Except.ok (ε := SettingsError)) laterMember
    rw [aboveLoaded] at isLoaded
    obtain ⟨other, otherMember, otherLayer⟩ := List.mem_map.mp isLoaded
    have higher : source.precedence < other.precedence :=
      (List.pairwise_cons.mp (List.pairwise_append.mp ascending).2.1).1 other otherMember
    obtain ⟨loadedLayer, otherLoaded, silent⟩ := higherOpen other (by simp [otherMember]) higher
    cases otherLayer.symm.trans otherLoaded
    exact silent

theorem layers_silent_iff (loaded : sources.map layer = layers.map .ok) :
    (∀ layer ∈ layers, layer.value? setting = none) ↔
      ∀ source ∈ sources, source.LeavesOpen setting := by
  induction sources generalizing layers with
  | nil =>
      cases layers with
      | nil => simp
      | cons => simp at loaded
  | cons source rest ih =>
      cases layers with
      | nil => simp at loaded
      | cons layer layers =>
          obtain ⟨here, later⟩ := List.cons.inj loaded
          rw [List.forall_mem_cons, List.forall_mem_cons, ih later]
          simp [LeavesOpen, here]

theorem settles_iff_settle (loaded : sources.map layer = layers.map .ok)
    (ascending : sources.Pairwise fun first second => first.precedence < second.precedence) :
    SettingsLayer.Settles layers setting value ↔ Settle sources setting value :=
  or_congr (lastSet_iff loaded ascending) (and_congr_left fun _ => layers_silent_iff loaded)

theorem settle_of_perm (permutation : sources.Perm others) :
    Settle sources setting value ↔ Settle others setting value := by
  simp only [Settle, permutation.mem_iff]

end SettingsSource

namespace Settings

open SettingsSource

variable {sources : List SettingsSource} {source : SettingsSource} {cause : SettingsError}

theorem ofSources_of_perm {others : List SettingsSource}
    (distinct : (sources.map precedence).Nodup) (permutation : sources.Perm others) :
    ofSources others = ofSources sources := by
  rw [ofSources, ofSources, ranked_of_perm distinct permutation]

/-- Sources below a failing one are merged, those above it are not read. -/
theorem ofSources_of_failing (distinct : (sources.map precedence).Nodup) (member : source ∈ sources)
    (fails : source.layer = .error cause)
    (lowerLoad : ∀ other ∈ sources, other.precedence < source.precedence → other.Loads) :
    ofSources sources = .error cause := by
  obtain ⟨lower, upper, parts⟩ := List.append_of_mem ((perm_ranked sources).mem_iff.mpr member)
  have ascending := ascending_ranked distinct
  rw [parts] at ascending
  have load : ∀ other ∈ lower, other.Loads := by
    intro other early
    have inside : other ∈ ranked sources := by simp [parts, early]
    exact lowerLoad other ((perm_ranked sources).mem_iff.mp inside)
      ((List.pairwise_append.mp ascending).2.2 other early source (by simp))
  obtain ⟨layers, loaded⟩ := exists_layers load
  have failed (merged : SettingsLayer) : cover merged source = .error cause := by
    rw [cover, fails]
    rfl
  rw [ofSources, parts, List.foldlM_append, foldlM_cover_of_layers loaded]
  simp only [List.foldlM_cons, failed, bind, Except.bind]

theorem ofSources_of_loading (distinct : (sources.map precedence).Nodup)
    (load : ∀ source ∈ sources, source.Loads) :
    ∃ settings : Settings,
      (∀ setting value, Settle sources setting value ↔ settings.value setting = value) ∧
      ofSources sources = settings.checked := by
  have rankedLoad : ∀ source ∈ ranked sources, source.Loads := fun source member =>
    load source ((perm_ranked sources).mem_iff.mp member)
  obtain ⟨layers, loaded⟩ := exists_layers rankedLoad
  refine ⟨(SettingsLayer.mergeAll layers).withDefaults, fun setting value => ?_, ?_⟩
  · rw [← SettingsLayer.settles_iff, settles_iff_settle loaded (ascending_ranked distinct),
      settle_of_perm (perm_ranked sources)]
  · rw [ofSources, foldlM_cover_of_layers loaded]
    rfl

end Settings

namespace Setting

/-- The environment variable that sets a setting. -/
def variableName : Setting → String
  | path => "CHOOSER_SERVER_STORAGE_PATH"
  | pollIntervalMs => "CHOOSER_SERVER_STORAGE_POLL_INTERVAL_MS"
  | defaultVersion => "CHOOSER_SERVER_DEFAULT_DATA_VERSION"
  | startupTimeoutSecs => "CHOOSER_SERVER_STARTUP_TIMEOUT_SECS"
  | level => "CHOOSER_SERVER_LOG_LEVEL"

/-- The value that a text stands for. -/
def Reads : (setting : Setting) → String → setting.type → Prop
  | path, text, value | defaultVersion, text, value | level, text, value => value = text
  | pollIntervalMs, text, value | startupTimeoutSecs, text, value => WritesNatural64 text value

end Setting

namespace Environment

variable {given other : Environment} {setting : Setting} {name text : String}

/-- A variable holds a text, and not an empty one. -/
def Holds (given : Environment) (name text : String) : Prop :=
  given.get? name = some (bytesOfText text) ∧ text ≠ ""

/-- A variable is not there, or its value is empty or no text. -/
inductive IsUnset (given : Environment) (name : String) : Prop where
  | missing (absent : given.get? name = none)
  | empty (found : given.get? name = some [])
  | notText {bytes : List UInt8} (found : given.get? name = some bytes)
      (invalid : ¬(ByteArray.mk bytes.toArray).IsValidUTF8)

/-- The variable of a setting holds a text that stands for no value. -/
def Garbles (given : Environment) (setting : Setting) (text : String) : Prop :=
  given.Holds setting.variableName text ∧ ∀ value, ¬setting.Reads text value

/-- Two environments hold the same for each setting, up to what is as good as unset. -/
def Alike (given other : Environment) : Prop :=
  ∀ setting : Setting, given.get? setting.variableName = other.get? setting.variableName ∨
    given.IsUnset setting.variableName ∧ other.IsUnset setting.variableName

theorem held?_eq_some_iff :
    given.held? name = some text ↔ given.get? name = some (bytesOfText text) := by
  simp [held?, Option.bind_eq_some_iff, textOfBytes?_eq_some_iff]

theorem text?_eq_some_iff : given.text? name = some text ↔ given.Holds name text := by
  simp [text?, Holds, Option.filter_eq_some_iff, held?_eq_some_iff]

theorem text?_eq_none_iff : given.text? name = none ↔ given.IsUnset name := by
  constructor
  · intro unset
    cases found : given.get? name with
    | none => exact .missing found
    | some bytes =>
        cases read : textOfBytes? bytes with
        | none => exact .notText found (textOfBytes?_eq_none_iff.mp read)
        | some text =>
            obtain rfl := textOfBytes?_eq_some_iff.mp read
            obtain rfl : text = "" := by
              by_contra nonempty
              cases unset.symm.trans (text?_eq_some_iff.mpr ⟨found, nonempty⟩)
            exact .empty found
  · intro unset
    refine Option.eq_none_iff_forall_ne_some.mpr fun text set => ?_
    obtain ⟨found, nonempty⟩ := text?_eq_some_iff.mp set
    cases unset with
    | missing absent => cases absent.symm.trans found
    | empty isEmpty =>
        have none : textOfBytes? [] = some text :=
          textOfBytes?_eq_some_iff.mpr (Option.some.inj (isEmpty.symm.trans found))
        have blank : textOfBytes? [] = some "" := textOfBytes?_eq_some_iff.mpr rfl
        exact nonempty (Option.some.inj (none.symm.trans blank))
    | notText other invalid =>
        obtain rfl := Option.some.inj (other.symm.trans found)
        exact invalid text.isValidUTF8

theorem natural?_of_garbled (holds : given.Holds name text)
    (garbled : ∀ number, ¬WritesNatural64 text number) :
    given.natural? name = .error (.invalidValue name text) := by
  have unread : natural64? text = none :=
    Option.eq_none_iff_forall_ne_some.mpr fun number read =>
      garbled number (natural64?_eq_some_iff.mp read)
  simp only [natural?, text?_eq_some_iff.mpr holds, unread]

/-- What the environment says under a name: nothing, or the value that a text stands for. -/
inductive Gives {α : Type} (given : Environment) (name : String) (reads : String → α → Prop) :
    Option α → Prop where
  | unset (unset : given.IsUnset name) : Gives given name reads none
  | held {text : String} {value : α} (holds : given.Holds name text) (isRead : reads text value) :
      Gives given name reads (some value)

theorem gives_text (given : Environment) (name : String) :
    given.Gives name (fun text value => value = text) (given.text? name) := by
  cases found : given.text? name with
  | none => exact .unset (text?_eq_none_iff.mp found)
  | some text => exact .held (text?_eq_some_iff.mp found) rfl

theorem exists_natural?
    (clear : ∀ text, given.Holds name text → ∃ number, WritesNatural64 text number) :
    ∃ found, given.natural? name = .ok found ∧ given.Gives name WritesNatural64 found := by
  cases text : given.text? name with
  | none => exact ⟨none, by simp only [natural?, text], .unset (text?_eq_none_iff.mp text)⟩
  | some value =>
      have holds := text?_eq_some_iff.mp text
      obtain ⟨number, writes⟩ := clear value holds
      have read := natural64?_eq_some_iff.mpr writes
      exact ⟨some number, by simp only [natural?, text, read], .held holds writes⟩

/-- An environment without garbled variables has a layer, made of its variables alone. -/
theorem exists_layer (clear : ∀ setting text, ¬given.Garbles setting text) :
    ∃ layer, given.layer = .ok layer ∧
      ∀ setting, given.Gives setting.variableName setting.Reads (layer.value? setting) := by
  have legible : ∀ (setting : Setting) text, given.Holds setting.variableName text →
      ∃ value, setting.Reads text value := fun setting text holds => by
    by_contra garbled
    exact clear setting text ⟨holds, not_exists.mp garbled⟩
  obtain ⟨interval, intervalOk, intervalGiven⟩ := exists_natural? (legible .pollIntervalMs)
  obtain ⟨timeout, timeoutOk, timeoutGiven⟩ := exists_natural? (legible .startupTimeoutSecs)
  simp only [Setting.variableName] at intervalOk timeoutOk
  refine ⟨_, by simp only [layer, intervalOk, timeoutOk, bind, Except.bind]; rfl, fun setting => ?_⟩
  cases setting with
  | path | defaultVersion | level => exact given.gives_text _
  | pollIntervalMs => exact intervalGiven
  | startupTimeoutSecs => exact timeoutGiven

theorem layer_of_garbled_interval (garbled : given.Garbles .pollIntervalMs text) :
    given.layer = .error (.invalidValue Setting.pollIntervalMs.variableName text) := by
  have failed := natural?_of_garbled garbled.1 garbled.2
  simp only [Setting.variableName] at failed ⊢
  simp only [layer, failed, bind, Except.bind]

/-- The poll interval is looked at first, so a garbled timeout is reported behind it. -/
theorem layer_of_garbled_timeout (garbled : given.Garbles .startupTimeoutSecs text)
    (clear : ∀ other, ¬given.Garbles .pollIntervalMs other) :
    given.layer = .error (.invalidValue Setting.startupTimeoutSecs.variableName text) := by
  have legible : ∀ text, given.Holds Setting.pollIntervalMs.variableName text →
      ∃ number, WritesNatural64 text number := fun text holds => by
    by_contra unread
    exact clear text ⟨holds, not_exists.mp unread⟩
  obtain ⟨interval, intervalOk, -⟩ := exists_natural? legible
  have failed := natural?_of_garbled garbled.1 garbled.2
  simp only [Setting.variableName] at intervalOk failed ⊢
  simp only [layer, intervalOk, failed, bind, Except.bind]

theorem Alike.text? (alike : given.Alike other) (setting : Setting) :
    given.text? setting.variableName = other.text? setting.variableName := by
  rcases alike setting with equal | ⟨unset, otherUnset⟩
  · rw [Environment.text?, Environment.text?, held?, held?, equal]
  · rw [text?_eq_none_iff.mpr unset, text?_eq_none_iff.mpr otherUnset]

theorem Alike.layer (alike : given.Alike other) : given.layer = other.layer := by
  have path := alike.text? .path
  have interval := alike.text? .pollIntervalMs
  have version := alike.text? .defaultVersion
  have timeout := alike.text? .startupTimeoutSecs
  have level := alike.text? .level
  simp only [Setting.variableName] at path interval version timeout level
  simp only [Environment.layer, natural?, path, interval, version, timeout, level]

end Environment

namespace Settings

open SettingsSource

variable {disk : Disk} {given : Environment} {file : SettingsLayer} {cause : SettingsError}

theorem distinct_standard (disk : Disk) (given : Environment) :
    ((standard disk given).map precedence).Nodup := by
  have precedences : (standard disk given).map precedence = [10, 20, 50] := rfl
  rw [precedences]
  decide

theorem ofSources_standard_of_error (read : SettingsLayer.ofDisk disk = .ok file)
    (failed : given.layer = .error cause) : ofSources (standard disk given) = .error cause := by
  have listed : environment given ∈ standard disk given := by simp [standard]
  refine ofSources_of_failing (distinct_standard disk given) listed failed ?_
  intro other member lower
  simp only [standard, List.mem_cons, List.not_mem_nil, or_false] at member
  rcases member with rfl | rfl | rfl
  · exact ⟨_, rfl⟩
  · exact ⟨file, read⟩
  · exact absurd lower (Nat.lt_irrefl _)

/-- A setting of the environment covers that of the file, which covers the default. -/
theorem settle_standard (read : SettingsLayer.ofDisk disk = .ok file) {layer : SettingsLayer}
    (loaded : given.layer = .ok layer) (setting : Setting) :
    Settle (standard disk given) setting
      (((layer.value? setting).or (file.value? setting)).getD setting.fallback) := by
  have defaultsOpen : defaults.LeavesOpen setting :=
    ⟨.empty, rfl, SettingsLayer.value?_empty setting⟩
  cases ofEnvironment : layer.value? setting with
  | some value =>
      refine .inl ⟨environment given, by simp [standard], ⟨layer, loaded, ofEnvironment⟩, ?_⟩
      intro other member higher
      simp only [standard, List.mem_cons, List.not_mem_nil, or_false] at member
      rcases member with rfl | rfl | rfl <;>
        simp [defaults, configFile, environment] at higher
  | none =>
      have environmentOpen : (environment given).LeavesOpen setting :=
        ⟨layer, loaded, ofEnvironment⟩
      cases ofFile : file.value? setting with
      | some value =>
          refine .inl ⟨configFile disk, by simp [standard], ⟨file, read, ofFile⟩, ?_⟩
          intro other member higher
          simp only [standard, List.mem_cons, List.not_mem_nil, or_false] at member
          rcases member with rfl | rfl | rfl
          · exact defaultsOpen
          · exact absurd higher (Nat.lt_irrefl _)
          · exact environmentOpen
      | none =>
          refine .inr ⟨?_, rfl⟩
          have fileOpen : (configFile disk).LeavesOpen setting := ⟨file, read, ofFile⟩
          simpa [standard] using ⟨defaultsOpen, fileOpen, environmentOpen⟩

/-- A loaded environment decides what its variables hold, and leaves the rest to the file. -/
theorem ofSources_standard_of_layer (read : SettingsLayer.ofDisk disk = .ok file)
    {layer : SettingsLayer} (loaded : given.layer = .ok layer) :
    ∃ settings : Settings, ofSources (standard disk given) = settings.checked ∧
      ∀ setting, settings.value setting =
        ((layer.value? setting).or (file.value? setting)).getD setting.fallback := by
  have load : ∀ source ∈ standard disk given, source.Loads := by
    have fileLoads : (configFile disk).Loads := ⟨file, read⟩
    have environmentLoads : (environment given).Loads := ⟨layer, loaded⟩
    simpa [standard] using ⟨⟨_, rfl⟩, fileLoads, environmentLoads⟩
  obtain ⟨settings, settles, outcome⟩ := ofSources_of_loading (distinct_standard disk given) load
  exact ⟨settings, outcome, fun setting =>
    (settles setting _).mp (settle_standard read loaded setting)⟩

theorem ofSources_standard_of_clear (read : SettingsLayer.ofDisk disk = .ok file)
    (clear : ∀ setting text, ¬given.Garbles setting text) :
    ∃ settings : Settings, ofSources (standard disk given) = settings.checked ∧ ∀ setting,
      (∃ text, given.Holds setting.variableName text ∧
        setting.Reads text (settings.value setting)) ∨
      given.IsUnset setting.variableName ∧
        settings.value setting = (file.value? setting).getD setting.fallback := by
  obtain ⟨layer, loaded, gives⟩ := Environment.exists_layer clear
  obtain ⟨settings, outcome, values⟩ := ofSources_standard_of_layer read loaded
  refine ⟨settings, outcome, fun setting => ?_⟩
  have given := gives setting
  rw [values]
  generalize layer.value? setting = found at given ⊢
  cases given with
  | unset unset => exact .inr ⟨unset, by simp⟩
  | held holds reads => exact .inl ⟨_, holds, by simpa using reads⟩

/-- An environment that is as good as empty leaves everything to the file. -/
theorem ofSources_standard_of_unset (read : SettingsLayer.ofDisk disk = .ok file)
    (unset : ∀ setting : Setting, given.IsUnset setting.variableName) :
    ofSources (standard disk given) = file.finalize := by
  have unheld : ∀ (setting : Setting) text, ¬given.Holds setting.variableName text :=
    fun setting text holds => by
      have none := Environment.text?_eq_none_iff.mpr (unset setting)
      cases none.symm.trans (Environment.text?_eq_some_iff.mpr holds)
  obtain ⟨settings, outcome, values⟩ :=
    ofSources_standard_of_clear read fun setting text garbled => unheld setting text garbled.1
  have same : settings = file.withDefaults := eq_of_value fun setting => by
    rw [SettingsLayer.value_withDefaults]
    rcases values setting with ⟨text, holds, -⟩ | ⟨-, fromFile⟩
    · exact absurd holds (unheld setting text)
    · exact fromFile
  rw [outcome, same, SettingsLayer.finalize_eq]

/-- The outcome of sources depends on their precedences, not on how they are listed. -/
structure Ranked (sources : List SettingsSource) : Prop where
  anyOrder : ∀ others, sources.Perm others → ofSources others = ofSources sources
  /-- Of the sources that fail the lowest is reported. -/
  failing : ∀ source ∈ sources, ∀ cause, source.layer = .error cause →
    (∀ other ∈ sources, other.precedence < source.precedence → other.Loads) →
      ofSources sources = .error cause
  loading : (∀ source ∈ sources, source.Loads) → ∃ settings : Settings,
    (∀ setting value, Settle sources setting value ↔ settings.value setting = value) ∧
      ofSources sources = settings.checked

/-- The outcome of the standard sources, with a file that has been read. -/
structure Overridden (disk : Disk) (file : SettingsLayer) (given : Environment) : Prop where
  garbledInterval : ∀ text, given.Garbles .pollIntervalMs text →
    ofSources (standard disk given) =
      .error (.invalidValue "CHOOSER_SERVER_STORAGE_POLL_INTERVAL_MS" text)
  garbledTimeout : ∀ text, given.Garbles .startupTimeoutSecs text →
    (∀ other, ¬given.Garbles .pollIntervalMs other) →
      ofSources (standard disk given) =
        .error (.invalidValue "CHOOSER_SERVER_STARTUP_TIMEOUT_SECS" text)
  /-- A text in its variable decides a setting, or else the file or the default does. -/
  clear : (∀ setting text, ¬given.Garbles setting text) → ∃ settings : Settings,
    ofSources (standard disk given) = settings.checked ∧ ∀ setting,
      (∃ text, given.Holds setting.variableName text ∧
        setting.Reads text (settings.value setting)) ∨
      given.IsUnset setting.variableName ∧
        settings.value setting = (file.value? setting).getD setting.fallback
  /-- What is as good as unset is so, and other variables play no part. -/
  alike : ∀ other, given.Alike other →
    ofSources (standard disk other) = ofSources (standard disk given)

/-- Sources of different precedences have one outcome, however they are listed: the error of the
lowest that fails, or else, after the check, the values of the highest that set them. -/
theorem ofSources_by_precedence :
    (∀ sources : List SettingsSource, (sources.map precedence).Nodup → Ranked sources) ∧
      ∀ disk given file, SettingsLayer.ofDisk disk = .ok file → Overridden disk file given := by
  refine ⟨fun sources distinct => ?_, fun disk given file read => ?_⟩
  · exact
      { anyOrder := fun _ => ofSources_of_perm distinct
        failing := fun _ member _ fails => ofSources_of_failing distinct member fails
        loading := ofSources_of_loading distinct }
  · exact
      { garbledInterval := fun _ garbled =>
          ofSources_standard_of_error read (Environment.layer_of_garbled_interval garbled)
        garbledTimeout := fun _ garbled clear =>
          ofSources_standard_of_error read (Environment.layer_of_garbled_timeout garbled clear)
        clear := ofSources_standard_of_clear read
        alike := fun other alike => by
          rw [standard, standard, environment, environment, alike.layer] }

def pathFile : Disk := .file "storage.path='a'".toUTF8

/-- An empty path, and a number with a plus. -/
def patient : Environment :=
  .ofList [("CHOOSER_SERVER_STORAGE_PATH", ""), ("CHOOSER_SERVER_STORAGE_POLL_INTERVAL_MS", "+750")]

def hurried : Environment := .ofList [("CHOOSER_SERVER_STORAGE_POLL_INTERVAL_MS", "soon")]

theorem pathFile_under_variables :
    ((standard pathFile patient).map precedence).Nodup ∧
      SettingsLayer.ofDisk pathFile = .ok ⟨some ⟨some "a", none⟩, none, none⟩ ∧
      hurried.Garbles .pollIntervalMs "soon" ∧
      ofSources (standard pathFile hurried) =
        .error (.invalidValue "CHOOSER_SERVER_STORAGE_POLL_INTERVAL_MS" "soon") ∧
      ∃ settings : Settings,
        ofSources [environment patient, defaults, configFile pathFile] = settings.checked ∧
        settings.value .path = "a" ∧ settings.value .pollIntervalMs = (750 : Nat) := by
  have distinct := distinct_standard pathFile patient
  have read : SettingsLayer.ofDisk pathFile = .ok ⟨some ⟨some "a", none⟩, none, none⟩ := by
    have text : textOfBytes? "storage.path='a'".toUTF8.toList = some "storage.path='a'" :=
      textOfBytes?_eq_some_iff.mpr (by decide +kernel)
    have parsed : (Toml.parse "storage.path='a'").bind SettingsLayer.ofToml? =
        some ⟨some ⟨some "a", none⟩, none, none⟩ := by decide +kernel
    simp only [pathFile, SettingsLayer.ofDisk, text, parsed]
  have unread : ∀ number, ¬WritesNatural64 "soon" number := fun number writes => by
    have unreadable : natural64? "soon" = none := by decide
    cases unreadable.symm.trans (natural64?_eq_some_iff.mpr writes)
  have garbles : hurried.Garbles .pollIntervalMs "soon" :=
    ⟨⟨by decide +kernel, by decide⟩, unread⟩
  have empty : patient.text? Setting.path.variableName = none :=
    Environment.text?_eq_none_iff.mpr (.empty (by decide +kernel))
  have plus : patient.text? Setting.pollIntervalMs.variableName = some "+750" :=
    Environment.text?_eq_some_iff.mpr ⟨by decide +kernel, by decide⟩
  have reads : natural64? "+750" = some 750 := by decide
  have clear : ∀ setting text, ¬patient.Garbles setting text := by
    rintro setting text ⟨holds, unread⟩
    have holds := Environment.text?_eq_some_iff.mpr holds
    cases setting with
    | path | defaultVersion | level => exact unread text rfl
    | pollIntervalMs =>
        cases plus.symm.trans holds
        exact unread (750 : Nat) (natural64?_eq_some_iff.mp reads)
    | startupTimeoutSecs =>
        have missing : patient.text? Setting.startupTimeoutSecs.variableName = none :=
          Environment.text?_eq_none_iff.mpr (.missing (by decide +kernel))
        cases missing.symm.trans holds
  obtain ⟨ranked, standards⟩ := ofSources_by_precedence
  have fails := (standards pathFile hurried _ read).garbledInterval "soon" garbles
  obtain ⟨settings, outcome, values⟩ := (standards pathFile patient _ read).clear clear
  refine ⟨distinct, read, garbles, fails, settings, ?_, ?_, ?_⟩
  · have reordered : (standard pathFile patient).Perm
        [environment patient, defaults, configFile pathFile] :=
      List.perm_append_singleton (environment patient) [defaults, configFile pathFile]
    exact ((ranked _ distinct).anyOrder _ reordered).trans outcome
  · rcases values .path with ⟨text, holds, -⟩ | ⟨-, fromFile⟩
    · cases empty.symm.trans (Environment.text?_eq_some_iff.mpr holds)
    · exact fromFile
  · rcases values .pollIntervalMs with ⟨text, holds, writes⟩ | ⟨unset, -⟩
    · cases plus.symm.trans (Environment.text?_eq_some_iff.mpr holds)
      exact Option.some.inj ((natural64?_eq_some_iff.mpr writes).symm.trans reads)
    · cases plus.symm.trans (Environment.text?_eq_none_iff.mpr unset)

def intervalFile : Disk := .file "storage.poll_interval_ms=250".toUTF8

/-- A number with a byte behind it that belongs to no text. -/
def spoilt : Environment :=
  .ofEntries [bytesOfText "CHOOSER_SERVER_STORAGE_POLL_INTERVAL_MS=750" ++ [0xFF]]

/-- A variable that is named for a section and a field of it, and that nobody asks for. -/
def misnamed : Environment := .ofList [("CHOOSER_SERVER_CONTENT_STARTUP_TIMEOUT_SECS", "soon")]

/-- Variables that are not empty, and leave everything to the file and the defaults. -/
theorem intervalFile_uncovered :
    SettingsLayer.ofDisk intervalFile = .ok ⟨some ⟨none, some 250⟩, none, none⟩ ∧
      spoilt.get? "CHOOSER_SERVER_STORAGE_POLL_INTERVAL_MS" =
        some (bytesOfText "750" ++ [0xFF]) ∧
      ofSources (standard intervalFile spoilt) =
        .ok ⟨⟨"./data/content.json", 250⟩, ⟨"2.2", 30⟩, ⟨"info"⟩⟩ ∧
      misnamed.get? "CHOOSER_SERVER_CONTENT_STARTUP_TIMEOUT_SECS" = some (bytesOfText "soon") ∧
      ofSources (standard intervalFile misnamed) =
        .ok ⟨⟨"./data/content.json", 250⟩, ⟨"2.2", 30⟩, ⟨"info"⟩⟩ := by
  have read : SettingsLayer.ofDisk intervalFile = .ok ⟨some ⟨none, some 250⟩, none, none⟩ := by
    have text : textOfBytes? "storage.poll_interval_ms=250".toUTF8.toList =
        some "storage.poll_interval_ms=250" :=
      textOfBytes?_eq_some_iff.mpr (by decide +kernel)
    have parsed : (Toml.parse "storage.poll_interval_ms=250").bind SettingsLayer.ofToml? =
        some ⟨some ⟨none, some 250⟩, none, none⟩ := by decide +kernel
    simp only [intervalFile, SettingsLayer.ofDisk, text, parsed]
  have held : spoilt.get? "CHOOSER_SERVER_STORAGE_POLL_INTERVAL_MS" =
      some (bytesOfText "750" ++ [0xFF]) := by decide +kernel
  have invalid : ¬(ByteArray.mk (bytesOfText "750" ++ [0xFF]).toArray).IsValidUTF8 := by
    decide +kernel
  have unset : ∀ setting : Setting, spoilt.IsUnset setting.variableName := fun setting => by
    cases setting with
    | pollIntervalMs => exact .notText held invalid
    | path | defaultVersion | startupTimeoutSecs | level => exact .missing (by decide +kernel)
  have unasked : ∀ setting : Setting, misnamed.IsUnset setting.variableName := fun setting => by
    cases setting <;> exact .missing (by decide +kernel)
  refine ⟨read, held, ?_, by decide +kernel, ?_⟩
  · rw [ofSources_standard_of_unset read unset]
    rfl
  · rw [ofSources_standard_of_unset read unasked]
    rfl

end Settings

end Audience
