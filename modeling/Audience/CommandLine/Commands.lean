import Audience.CommandLine.Help
import Audience.CommandLine.Script
import Audience.Service.Conversation
import Audience.Service.Timeline
import Audience.Settings.EnvironmentFile
import Audience.Settings.Source

namespace Audience

/-! The commands of the program. -/

/-- How the program ends: its exit code and what it has written. -/
structure Outcome where
  code : Nat
  output : String
deriving Repr, DecidableEq

namespace Outcome

def failure : Outcome := ⟨1, ""⟩

/-- The end of a program that could not fail in order. -/
def aborted : Outcome := ⟨101, ""⟩

/-- A text on lines of its own. -/
def printed (text : String) : Outcome := ⟨0, text ++ "\n"⟩

end Outcome

namespace CommandLine

def programVersion : String := "0.1.0"

/-- Where the settings are when nothing else is said. -/
def systemConfig : String := "/etc/chooser/server.toml"

def environmentPath : String := ".env"

def describeVersion (platform : String) : String :=
  programName ++ " version: " ++ programVersion ++ "\n" ++ "Platform:               " ++ platform

def textOfDisk? : Disk → Option String
  | .file bytes => textOfBytes? bytes.toList
  | _ => none

/-- The content of the file that the settings name, once it is loaded; nothing if that does not
happen in time. -/
def loaded (settings : Settings) (disk : Disk) : Option Snapshot :=
  let service := (Timeline.ofSource (.file settings.storage.path disk) 0).start
  (service.await (settings.content.startupTimeoutSecs * 1000)).2

/-- Reports on the content; rules with unsuitable values are a failure. -/
def check (settings : Settings) : Script Outcome := do
  let disk ← Script.look settings.storage.path
  match (Source.file settings.storage.path disk).fetch with
  | .error _ => return .failure
  | .ok catalog =>
      let report := Catalog.report catalog
      return { Outcome.printed report.text with code := if report.isOk then 0 else 1 }

/-- Prints what one caller sees. -/
def query (settings : Settings) (version context : Option String) : Script Outcome := do
  let text? ← match context with
    | some path => textOfDisk? <$> Script.look path
    | none => (fun input => textOfBytes? input.toList) <$> Script.input
  match text?.map Caller.ofText with
  | some (.ok caller) =>
      let disk ← Script.look settings.storage.path
      match loaded settings disk with
      | none => return .failure
      | some snapshot =>
          match snapshot.view (version.getD settings.content.defaultVersion) caller with
          | .error _ => return .failure
          | .ok view => return .printed view.toJson.indentedText
  | _ => return .failure

/-- Prints the type of a rule, if the value suits it. -/
def validateRule (type value : String) : Outcome :=
  match Value.ofText value with
  | .error _ => .failure
  | .ok value =>
      match RuleType.validate type value with
      | .error _ => .failure
      | .ok type => .printed type.toJson.text

/-- Replies to the requests in the input. -/
def serve (settings : Settings) : Script Outcome := do
  let disk ← Script.look settings.storage.path
  match loaded settings disk with
  | none => return .failure
  | some snapshot =>
      let input ← Script.input
      let conversation := Conversation.ofInput snapshot settings.content.defaultVersion input
      return ⟨if conversation.readable then 0 else 1, conversation.output⟩

/-- The environment of a run, if the file of variables allows one. -/
def environment (started : Environment) : Script (Option Environment) := do
  let assignments ← Script.look environmentPath
  return (textOfDisk? assignments).elim (some started) (EnvironmentFile.load started)

/-- The settings of a run. -/
def settings (environment : Environment) (config : Option String) :
    Script (Except SettingsError Settings) := do
  let disk ← Script.look (config.getD systemConfig)
  return Settings.ofSources (SettingsSource.standard disk environment)

def perform (settings : Settings) (platform : String) : Command → Script Outcome
  | .version => return .printed (describeVersion platform)
  | .check => check settings
  | .query version context => query settings version context
  | .validateRule type value => return validateRule type value
  | .serve => serve settings

/-- Runs the program.  Paths are texts here, so a path in the environment that is no text counts as
not given. -/
def run (platform : String) (started : Environment) (arguments : List String) :
    Script Outcome := do
  match Arguments.parse (started.held? configVariable) arguments with
  | .error .misuse => return ⟨2, ""⟩
  | .error (.helpAsked topic) =>
      return .printed (Help.text topic (started.held? configVariable))
  | .error .versionAsked => return .printed (programName ++ " " ++ programVersion)
  | .ok ⟨_, .version⟩ => return .printed (describeVersion platform)
  | .ok ⟨config, command⟩ =>
      match ← environment started with
      | none => return .aborted
      | some extended =>
          match ← settings extended config with
          | .error _ => return .failure
          | .ok settings => perform settings platform command

end CommandLine

end Audience
