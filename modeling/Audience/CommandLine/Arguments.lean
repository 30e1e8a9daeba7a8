namespace Audience

/-! The arguments of the command line. -/

inductive Command where
  | version
  | check
  | query (version context : Option String)
  | validateRule (type value : String)
  | serve
deriving Repr, DecidableEq

/-- What is asked of the program. -/
structure Invocation where
  /-- The path of the file with the settings. -/
  config : Option String
  command : Command
deriving Repr, DecidableEq

namespace Arguments

/-- An option with a value. -/
structure Setting where
  name : String
  isPath : Bool
  isRequired : Bool
  purpose : String
deriving Repr, DecidableEq

/-- The program or one of its commands. -/
inductive Level where
  | program
  | version
  | check
  | query
  | validateRule
  | serve
deriving Repr, DecidableEq

namespace Level

def commands : List Level := [version, check, query, validateRule, serve]

/-- The word that names a command; the program itself needs none. -/
def name : Level → String
  | program => ""
  | version => "version"
  | check => "check"
  | query => "query"
  | validateRule => "validate-rule"
  | serve => "serve"

def ofName? (name : String) : Option Level :=
  commands.find? (·.name == name)

def settings (level : Level) : List Setting :=
  ⟨"config", true, false, "Config file (default: /etc/chooser/server.toml)"⟩ ::
    match level with
    | query =>
        [⟨"data-version", false, false, "Data version (default: content.default_data_version)"⟩,
          ⟨"context", true, false, "Caller context JSON file; read from stdin when absent"⟩]
    | validateRule =>
        [⟨"rule-type", false, true, ""⟩, ⟨"value", false, true, "Rule value as JSON"⟩]
    | _ => []

def setting? (level : Level) (name : String) : Option Setting :=
  level.settings.find? (·.name == name)

end Level

/-- What can be explained. -/
inductive Topic where
  | level (level : Level)
  /-- The word that explains commands. -/
  | help
deriving Repr, DecidableEq

/-- Why arguments ask for no command. -/
inductive Stop where
  | misuse
  | helpAsked (topic : Topic)
  | versionAsked
deriving Repr, DecidableEq

/-- The options given at one level. -/
abbrev Given := List (String × String)

def get? (name : String) (given : Given) : Option String :=
  (given.find? fun entry => entry.1 == name).map Prod.snd

/-- Whether an argument begins like an option. -/
def isDashed (argument : String) : Bool :=
  argument.startsWith "-" && argument != "-"

/-- Notes the value of an option, which may be given once.  A path may not be empty. -/
def note (given : Given) (setting : Setting) (value : String) : Except Stop Given :=
  if (get? setting.name given).isSome || (setting.isPath && value == "") then .error .misuse
  else .ok ((setting.name, value) :: given)

/-- The name of a long option, and the value that is attached to it. -/
def splitOption (argument : String) : String × Option String :=
  let (name, attached) := (argument.toList.drop 2).span (· != '=')
  (String.ofList name,
    match attached with
    | [] => none
    | _ :: value => some (String.ofList value))

/-- An option that takes no value. -/
def bare (level : Level) : String → Stop
  | "help" => .helpAsked (.level level)
  | "version" => if level = .program then .versionAsked else .misuse
  | _ => .misuse

/-- The first letter behind a single dash. -/
def letter (level : Level) (argument : String) : Stop :=
  match argument.toList with
  | _ :: 'h' :: _ => .helpAsked (.level level)
  | _ :: 'V' :: _ => if level = .program then .versionAsked else .misuse
  | _ => .misuse

/-- What an argument is. -/
inductive Word where
  /-- Behind it there are no options. -/
  | ending
  | attached (setting : Setting) (value : String)
  /-- An option whose value is the next argument. -/
  | awaiting (setting : Setting)
  | stop (stop : Stop)
  | plain

def classify (level : Level) (argument : String) : Word :=
  if argument == "--" then .ending
  else if argument.startsWith "--" then
    let (name, attached) := splitOption argument
    match level.setting? name, attached with
    | some setting, some value => .attached setting value
    | some setting, none => .awaiting setting
    | none, none => .stop (bare level name)
    | none, some _ => .stop .misuse
  else if isDashed argument then .stop (letter level argument)
  else .plain

/-- Reads the options of a level, up to the word that names a command. -/
def options (level : Level) (given : Given) :
    List String → Except Stop (Given × Option (String × List String))
  | [] => .ok (given, none)
  | argument :: rest =>
      match classify level argument with
      | .ending => if rest.isEmpty then .ok (given, none) else .error .misuse
      | .attached setting value =>
          match note given setting value with
          | .ok more => options level more rest
          | .error stop => .error stop
      | .awaiting setting =>
          match rest with
          | [] => .error .misuse
          | value :: behind =>
              if isDashed value then .error .misuse
              else match note given setting value with
                | .ok more => options level more behind
                | .error stop => .error stop
      | .stop stop => .error stop
      | .plain => if level = .program then .ok (given, some (argument, rest)) else .error .misuse

/-- The command of a level with its options. -/
def command (level : Level) (given : Given) : Except Stop Command :=
  match level with
  | .version => .ok .version
  | .check => .ok .check
  | .query => .ok (.query (get? "data-version" given) (get? "context" given))
  | .validateRule =>
      match get? "rule-type" given, get? "value" given with
      | some type, some value => .ok (.validateRule type value)
      | _, _ => .error .misuse
  | .serve | .program => .ok .serve

/-- What is asked for by the word that explains commands. -/
def explanation : List String → Stop
  | [] => .helpAsked (.level .program)
  | [name] =>
      if name == "help" then .helpAsked .help
      else match Level.ofName? name with
        | some level => .helpAsked (.level level)
        | none => .misuse
  | _ => .misuse

/-- Where the settings are, unless the arguments of a level say so: a variable may name a path,
but not an empty one. -/
def checkFallback (given : Given) (fallback : Option String) : Except Stop Unit :=
  if (get? "config" given).isNone && fallback == some "" then .error .misuse else .ok ()

/-- What the arguments ask for.  Options behind a command count more than those before it, and
both more than the variable. -/
def parse (fallback : Option String) (arguments : List String) : Except Stop Invocation := do
  let (before, named) ← options .program [] arguments
  match named with
  | none =>
      checkFallback before fallback
      .ok ⟨(get? "config" before).or fallback, .serve⟩
  | some (name, rest) =>
      if name == "help" then .error (explanation rest)
      else match Level.ofName? name with
        | none => .error .misuse
        | some level => do
            let (behind, _) ← options level [] rest
            checkFallback behind fallback
            let command ← command level behind
            checkFallback before fallback
            .ok ⟨((get? "config" behind).or (get? "config" before)).or fallback, command⟩

end Arguments

end Audience
