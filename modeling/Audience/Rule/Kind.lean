import Audience.Rule.Roles
import Audience.Rule.SignIn

namespace Audience

/-! The kinds of rules: which values they take and when they match.

A value is checked when a rule is made or stored content is checked.  Matching never fails; a value
that should have been refused does not match, except that role expressions of an unknown shape
hold.
-/

inductive RuleKind where
  | roles
  | privacy
  | signIn
  | loyalty
  | enable
  | platform
deriving Repr, DecidableEq

/-- What is wrong with the value of a rule. -/
inductive ValueProblem where
  | wrongShape (wanted found : String)
  | notFinite
  | wrongEntry (key wanted found : String)
  | missingEntry (key : String)
deriving Repr, DecidableEq

def ValueProblem.message : ValueProblem → String
  | wrongShape wanted found => "expected a " ++ wanted ++ ", found " ++ found
  | notFinite => "minimum level must be finite"
  | wrongEntry key wanted found =>
      "'" ++ key ++ "' must be a " ++ wanted ++ ", found " ++ found
  | missingEntry key => "missing '" ++ key ++ "'"

namespace RuleKind

/-- All kinds, in the order of their registered ids. -/
def all : List RuleKind := [roles, privacy, signIn, loyalty, enable, platform]

/-- The name under which a kind is stored. -/
def name : RuleKind → String
  | roles => "roles"
  | privacy => "privacy"
  | signIn => "auth"
  | loyalty => "illini_cash"
  | enable => "enable"
  | platform => "platform"

def ofName? (name : String) : Option RuleKind :=
  all.find? fun kind => kind.name == name

theorem ofName?_name (kind : RuleKind) : ofName? kind.name = some kind := by
  cases kind <;> decide

theorem name_of_ofName? {kind : RuleKind} {name : String} (known : ofName? name = some kind) :
    kind.name = name := by
  simpa using List.find?_some known

/-- The place of a kind in the order of kinds. -/
def rank : RuleKind → Nat
  | roles => 0
  | privacy => 1
  | signIn => 2
  | loyalty => 3
  | enable => 4
  | platform => 5

end RuleKind

/-- The entry of a platform rule that names the operating system. -/
def osKey : String := "os"

/-- The entry of a loyalty rule. -/
def housingKey : String := "housingResidenceStatus"

/-- What is wrong with an entry that a map must have. -/
def requiredEntryProblem? (value : Value) (key wanted : String) (accepts : Value → Bool) :
    Option ValueProblem :=
  match value.map? with
  | none => some (.wrongShape "map" value.shape)
  | some entries =>
      match Sorted.lookup key entries with
      | none => some (.missingEntry key)
      | some entry => if accepts entry then none else some (.wrongEntry key wanted entry.shape)

namespace SignInPredicate

/-- What is wrong with the entry of a predicate, if the map has one. -/
def entryProblem? (entries : List (String × Value)) (predicate : SignInPredicate) :
    Option ValueProblem :=
  match named? entries predicate with
  | none => none
  | some value =>
      if predicate.takesText then
        if value.text?.isSome then none else some (.wrongEntry predicate.key "string" value.shape)
      else
        if value.bool?.isSome then none else some (.wrongEntry predicate.key "bool" value.shape)

/-- What is wrong with the value of a rule on the sign-in: every predicate of the latest generation
that it has must be asked with the right type. -/
def valueProblem? (value : Value) : Option ValueProblem :=
  match value.map? with
  | none => some (.wrongShape "map" value.shape)
  | some entries => (understood .v3).findSome? (entryProblem? entries)

end SignInPredicate

namespace RuleKind

/-- What is wrong with a value for a kind of rule. -/
def valueProblem? (kind : RuleKind) (value : Value) : Option ValueProblem :=
  match kind with
  | roles =>
      match value with
      | .text _ | .list _ => none
      | other => some (.wrongShape "string or list" other.shape)
  | privacy =>
      match value with
      | .number level => if level.isFinite then none else some .notFinite
      | other => some (.wrongShape "number" other.shape)
  | signIn => SignInPredicate.valueProblem? value
  | loyalty => requiredEntryProblem? value housingKey "bool" fun entry => entry.bool?.isSome
  | enable =>
      match value with
      | .bool _ => none
      | other => some (.wrongShape "bool" other.shape)
  | platform => requiredEntryProblem? value osKey "string" fun entry => entry.text?.isSome

def accepts (kind : RuleKind) (value : Value) : Bool :=
  (kind.valueProblem? value).isNone

/-- Whether a value lets a caller see what it is attached to. -/
def lets (kind : RuleKind) (caller : Caller) (value : Value) : Bool :=
  match kind with
  | roles => RoleExpression.evaluate caller.roles value
  | privacy =>
      match value.number? with
      | some level =>
          caller.identity.any fun identity => decide (level.toInt64 ≤ identity.privacyLevel)
      | none => false
  | signIn =>
      match caller.signIn with
      | some payload => (SignInPredicate.evaluate payload value).toOption.getD false
      | none => false
  | loyalty =>
      match (value.get? housingKey).bind Value.bool? with
      | some wanted => caller.isHousingResident == wanted
      | none => false
  | enable => value.bool?.getD false
  | platform =>
      match (value.get? osKey).bind Value.text? with
      | some wanted => caller.os? == some wanted
      | none => false

end RuleKind

/-- Why a rule cannot be made. -/
inductive RuleError where
  | unknownType (name : String)
  | invalidValue (kind : RuleKind) (problem : ValueProblem)
deriving Repr, DecidableEq

def RuleError.message : RuleError → String
  | unknownType name => "unknown rule type: " ++ name
  | invalidValue kind problem =>
      "invalid value for rule type '" ++ kind.name ++ "': " ++ problem.message

namespace RuleKind

def ofName (name : String) : Except RuleError RuleKind :=
  match ofName? name with
  | some kind => .ok kind
  | none => .error (.unknownType name)

/-- Refuses a value that does not suit a kind. -/
def check (kind : RuleKind) (value : Value) : Except RuleError Unit :=
  match kind.valueProblem? value with
  | none => .ok ()
  | some problem => .error (.invalidValue kind problem)

end RuleKind

end Audience
