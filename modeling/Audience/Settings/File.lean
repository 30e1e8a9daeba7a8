import Audience.Content.Source
import Audience.Settings.Basic
import Audience.Text.Lines
import Audience.Toml.Document

namespace Audience

/-! Settings from a TOML file.

A section may be a table or an array of its fields in their order.  What else a table or an array
holds is passed over, and a moment in time counts as a section with nothing in it.
-/

namespace SettingsLayer

def textValue? : Toml.Value → Option String
  | .text value => some value
  | _ => none

def naturalValue? : Toml.Value → Option Nat
  | .integer value => if 0 ≤ value then some value.toNat else none
  | _ => none

/-- The field of a table, which must be of its type if it is there. -/
def field? {α : Type} (key : String) (read : Toml.Value → Option α)
    (entries : List (String × Toml.Value)) : Option (Option α) :=
  match Toml.get? key entries with
  | none => some none
  | some value => (read value).map some

def storageSection? : Toml.Value → Option StorageLayer
  | .table entries => do
      let path ← field? "path" textValue? entries
      let pollIntervalMs ← field? "poll_interval_ms" naturalValue? entries
      some ⟨path, pollIntervalMs⟩
  | .array (path :: interval :: _) => do some ⟨← textValue? path, ← naturalValue? interval⟩
  | .moment _ => some ⟨none, none⟩
  | _ => none

def contentSection? : Toml.Value → Option ContentLayer
  | .table entries => do
      let defaultVersion ← field? "default_data_version" textValue? entries
      let startupTimeoutSecs ← field? "startup_timeout_secs" naturalValue? entries
      some ⟨defaultVersion, startupTimeoutSecs⟩
  | .array (version :: timeout :: _) => do some ⟨← textValue? version, ← naturalValue? timeout⟩
  | .moment _ => some ⟨none, none⟩
  | _ => none

def loggingSection? : Toml.Value → Option LoggingLayer
  | .table entries => do some ⟨← field? "level" textValue? entries⟩
  | .array (level :: _) => do some ⟨← textValue? level⟩
  | .moment _ => some ⟨none⟩
  | _ => none

/-- The layer that the top table of a document stands for. -/
def ofToml? (entries : List (String × Toml.Value)) : Option SettingsLayer := do
  let storage ← field? "storage" storageSection? entries
  let content ← field? "content" contentSection? entries
  let logging ← field? "logging" loggingSection? entries
  some ⟨storage, content, logging⟩

/-- The layer of a file.  A file that is not there sets nothing. -/
def ofDisk : Disk → Except SettingsError SettingsLayer
  | .missing => .ok empty
  | .directory => .error .unreadableFile
  | .file bytes =>
      match textOfBytes? bytes.toList with
      | none => .error .unreadableFile
      | some text =>
          match (Toml.parse text).bind ofToml? with
          | none => .error .malformedFile
          | some layer => .ok layer

end SettingsLayer

end Audience
