import Audience.Json.Record

namespace Audience

/-! Partial settings, and how one layer of them covers another. -/

structure StorageLayer where
  path : Option String
  pollIntervalMs : Option Nat
deriving Repr, DecidableEq

structure ContentLayer where
  defaultVersion : Option String
  startupTimeoutSecs : Option Nat
deriving Repr, DecidableEq

structure LoggingLayer where
  level : Option String
deriving Repr, DecidableEq

structure SettingsLayer where
  storage : Option StorageLayer
  content : Option ContentLayer
  logging : Option LoggingLayer
deriving Repr, DecidableEq

/-- Each field of the upper layer that is set covers that of the lower one. -/
def StorageLayer.merge (lower upper : StorageLayer) : StorageLayer :=
  ⟨upper.path.or lower.path, upper.pollIntervalMs.or lower.pollIntervalMs⟩

def ContentLayer.merge (lower upper : ContentLayer) : ContentLayer :=
  ⟨upper.defaultVersion.or lower.defaultVersion,
    upper.startupTimeoutSecs.or lower.startupTimeoutSecs⟩

def LoggingLayer.merge (lower upper : LoggingLayer) : LoggingLayer :=
  ⟨upper.level.or lower.level⟩

namespace SettingsLayer

def empty : SettingsLayer := ⟨none, none, none⟩

/-- Merges a section where both layers have it. -/
def mergeSection {α : Type} (merge : α → α → α) : Option α → Option α → Option α
  | some lower, some upper => some (merge lower upper)
  | lower, none => lower
  | none, upper => upper

/-- Covers one layer by another, section by section. -/
def merge (lower upper : SettingsLayer) : SettingsLayer :=
  ⟨mergeSection StorageLayer.merge lower.storage upper.storage,
    mergeSection ContentLayer.merge lower.content upper.content,
    mergeSection LoggingLayer.merge lower.logging upper.logging⟩

/-- Merges layers from the lowest to the highest. -/
def mergeAll (layers : List SettingsLayer) : SettingsLayer :=
  layers.foldl merge empty

end SettingsLayer

def StorageLayer.reader : Reader StorageLayer :=
  Record.reader [.nullable "path" .string, .nullable "poll_interval_ms" .natural]
    fun (path, pollIntervalMs, _) => ⟨path, pollIntervalMs⟩

def ContentLayer.reader : Reader ContentLayer :=
  Record.reader
    [.nullable "default_data_version" .string, .nullable "startup_timeout_secs" .natural]
    fun (defaultVersion, startupTimeoutSecs, _) => ⟨defaultVersion, startupTimeoutSecs⟩

def LoggingLayer.reader : Reader LoggingLayer :=
  Record.reader [.nullable "level" .string] fun (level, _) => ⟨level⟩

def SettingsLayer.reader : Reader SettingsLayer :=
  Record.reader
    [.optional "storage" StorageLayer.reader [], .optional "content" ContentLayer.reader [],
      .optional "logging" LoggingLayer.reader []]
    fun (storage, content, logging, _) => ⟨storage, content, logging⟩

namespace SettingsLayer

/-- A value that may be missing. -/
def orNull {α : Type} (write : α → Json) (value : Option α) : Json :=
  value.elim .null write

def wholeJson (value : Nat) : Json := .whole value

def toJson (layer : SettingsLayer) : Json :=
  .object [
    ("storage", orNull (fun storage : StorageLayer =>
      .object [("path", orNull .string storage.path),
        ("poll_interval_ms", orNull wholeJson storage.pollIntervalMs)]) layer.storage),
    ("content", orNull (fun content : ContentLayer =>
      .object [("default_data_version", orNull .string content.defaultVersion),
        ("startup_timeout_secs", orNull wholeJson content.startupTimeoutSecs)]) layer.content),
    ("logging", orNull (fun logging : LoggingLayer =>
      .object [("level", orNull .string logging.level)]) layer.logging)]

end SettingsLayer

end Audience
