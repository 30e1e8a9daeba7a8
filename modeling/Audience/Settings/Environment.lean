import Audience.Number.Reading
import Audience.Settings.Basic
import Audience.Sorted
import Audience.Text.Lines

namespace Audience

/-! Settings from environment variables.

The value of a variable is made of bytes and may be no text.  Whoever asks for a text finds nothing
then, as if the variable was missing.
-/

abbrev Environment := SortedMap (List UInt8)

/-- The natural number of 64 bits that a text stands for: digits, with or without a plus. -/
def natural64? (text : String) : Option Nat :=
  match text.toList with
  | '+' :: digits => Numeral.word? digits
  | digits => Numeral.word? digits

namespace Environment

/-- The environment of names and the texts that they hold. -/
def ofList (entries : List (String × String)) : Environment :=
  SortedMap.ofList (entries.map fun (name, text) => (name, bytesOfText text))

def equalsSign : UInt8 := 0x3D

/-- The environment of entries that each hold a name, an equals sign and a value, of which the
first with a name counts.  Nobody asks for a name that is no text. -/
def ofEntries (entries : List (List UInt8)) : Environment :=
  SortedMap.ofList <| entries.reverse.filterMap fun entry =>
    match entry.span (· != equalsSign) with
    | (name, _ :: value) => (textOfBytes? name).map (·, value)
    | (_, []) => none

/-- The text that a variable holds; nothing if its value is none. -/
def held? (environment : Environment) (name : String) : Option String :=
  (environment.get? name).bind textOfBytes?

/-- The text of a variable.  A variable stands in the environment as its name, an equals sign and
its value, and a name that holds an equals sign takes the front of a value with it. -/
def find? (environment : Environment) (name : List Char) : Option (List Char) :=
  let (key, more) := name.span (· != '=')
  let value := environment.get? (String.ofList key)
  let behind := match more with
    | [] => value
    | _ :: front =>
        let mark := bytesOfText (String.ofList (front ++ ['=']))
        value.bind fun bytes =>
          if mark.isPrefixOf bytes then some (bytes.drop mark.length) else none
  (behind.bind textOfBytes?).map String.toList

/-- The text of a variable; an empty one counts as unset. -/
def text? (environment : Environment) (name : String) : Option String :=
  (environment.held? name).filter (· != "")

def natural? (environment : Environment) (name : String) :
    Except SettingsError (Option Nat) :=
  match environment.text? name with
  | none => .ok none
  | some value =>
      match natural64? value with
      | some number => .ok (some number)
      | none => .error (.invalidValue name value)

/-- The layer of settings that the environment makes. -/
def layer (environment : Environment) : Except SettingsError SettingsLayer := do
  let pollIntervalMs ← environment.natural? "CHOOSER_SERVER_STORAGE_POLL_INTERVAL_MS"
  let startupTimeoutSecs ← environment.natural? "CHOOSER_SERVER_STARTUP_TIMEOUT_SECS"
  .ok
    { storage := some ⟨environment.text? "CHOOSER_SERVER_STORAGE_PATH", pollIntervalMs⟩
      content := some
        ⟨environment.text? "CHOOSER_SERVER_DEFAULT_DATA_VERSION", startupTimeoutSecs⟩
      logging := some ⟨environment.text? "CHOOSER_SERVER_LOG_LEVEL"⟩ }

end Environment

end Audience
