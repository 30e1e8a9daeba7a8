import Audience.Settings.Layer
import Audience.Text.Blank

namespace Audience

/-! Complete settings. -/

structure StorageSettings where
  path : String
  pollIntervalMs : Nat
deriving Repr, DecidableEq

structure ContentSettings where
  /-- The data version of a request that names none. -/
  defaultVersion : String
  /-- How long the first load may take. -/
  startupTimeoutSecs : Nat
deriving Repr, DecidableEq

structure LoggingSettings where
  level : String
deriving Repr, DecidableEq

structure Settings where
  storage : StorageSettings
  content : ContentSettings
  logging : LoggingSettings
deriving Repr, DecidableEq

/-- What is wrong with complete settings. -/
inductive SettingsProblem where
  | zeroPollInterval
  | emptyPath
  | blankVersion
deriving Repr, DecidableEq

def SettingsProblem.message : SettingsProblem → String
  | zeroPollInterval => "storage.poll_interval_ms must be greater than zero"
  | emptyPath => "storage.path must not be empty"
  | blankVersion => "content.default_data_version must not be empty"

/-- Why there are no settings. -/
inductive SettingsError where
  | unreadableFile
  | malformedFile
  | invalidValue (name value : String)
  | invalid (problem : SettingsProblem)
deriving Repr, DecidableEq

def SettingsError.message : SettingsError → String
  | unreadableFile => "failed to read config file"
  | malformedFile => "TOML parse error"
  | invalidValue name value =>
      "invalid value for " ++ name ++ ": invalid u64 value '" ++ value ++ "'"
  | invalid problem => "validation error: " ++ problem.message

namespace Settings

/-- The first problem of settings, if they have one. -/
def problem? (settings : Settings) : Option SettingsProblem :=
  if settings.storage.pollIntervalMs = 0 then some .zeroPollInterval
  else if settings.storage.path = "" then some .emptyPath
  else if allBlank settings.content.defaultVersion then some .blankVersion
  else none

/-- Where a path leads: whether from the root, and through which names.  Only a dot at the
beginning of a path that does not start at the root is a name of its own. -/
def pathNames (path : String) : Bool × List String :=
  let parts := path.splitOn "/"
  let rooted := path.startsWith "/"
  let names := parts.filter fun part => part != "" && part != "."
  (rooted, if !rooted && parts.head? == some "." then "." :: names else names)

end Settings

namespace SettingsLayer

/-- The settings of a layer, with the defaults for what it leaves open. -/
def withDefaults (layer : SettingsLayer) : Settings :=
  let storage := layer.storage.getD ⟨none, none⟩
  let content := layer.content.getD ⟨none, none⟩
  let logging := layer.logging.getD ⟨none⟩
  { storage := ⟨storage.path.getD "./data/content.json", storage.pollIntervalMs.getD 2000⟩
    content := ⟨content.defaultVersion.getD "2.2", content.startupTimeoutSecs.getD 30⟩
    logging := ⟨logging.level.getD "info"⟩ }

/-- The settings of a layer, if they are sound. -/
def finalize (layer : SettingsLayer) : Except SettingsError Settings :=
  let settings := layer.withDefaults
  match settings.problem? with
  | some problem => .error (.invalid problem)
  | none => .ok settings

end SettingsLayer

namespace Settings

def default : Settings := SettingsLayer.empty.withDefaults

/-- Whether settings are the default ones.  Paths may be written differently. -/
def isDefault (settings : Settings) : Bool :=
  pathNames settings.storage.path == pathNames default.storage.path &&
    settings.storage.pollIntervalMs == default.storage.pollIntervalMs &&
    settings.content == default.content && settings.logging == default.logging

end Settings

end Audience
