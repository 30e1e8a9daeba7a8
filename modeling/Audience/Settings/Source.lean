import Audience.Settings.Environment
import Audience.Settings.File

namespace Audience

/-! Where settings come from, and which source counts more. -/

structure SettingsSource where
  name : String
  /-- Sources of higher precedence cover those of lower. -/
  precedence : Nat
  layer : Except SettingsError SettingsLayer

namespace SettingsSource

def defaults : SettingsSource := ⟨"defaults", 10, .ok .empty⟩

def configFile (disk : Disk) : SettingsSource := ⟨"toml-config", 20, SettingsLayer.ofDisk disk⟩

def environment (given : Environment) : SettingsSource :=
  ⟨"environment", 50, given.layer⟩

/-- Sources by rising precedence. -/
def ranked (sources : List SettingsSource) : List SettingsSource :=
  sources.mergeSort fun first second => decide (first.precedence ≤ second.precedence)

/-- The sources of a program with a file. -/
def standard (disk : Disk) (given : Environment) : List SettingsSource :=
  [defaults, configFile disk, environment given]

/-- Adds the layer of a source to those below it. -/
def cover (merged : SettingsLayer) (source : SettingsSource) :
    Except SettingsError SettingsLayer :=
  source.layer.map merged.merge

end SettingsSource

namespace Settings

/-- The settings that sources make, the lowest first.  The first that fails is reported. -/
def ofSources (sources : List SettingsSource) : Except SettingsError Settings := do
  let merged ← (SettingsSource.ranked sources).foldlM SettingsSource.cover .empty
  merged.finalize

end Settings

end Audience
