import Audience.Json.Record
import Audience.Rule.Kind

namespace Audience

/-! Registered rule types and rules. -/

/-- A kind of rule under the id that content refers to it by. -/
structure RuleType where
  id : Int64
  kind : RuleKind
deriving Repr, DecidableEq

structure Rule where
  id : Int64
  type : RuleType
  value : Value
deriving Repr

namespace RuleType

def ofName (id : Int64) (name : String) : Except RuleError RuleType :=
  (RuleKind.ofName name).map (RuleType.mk id)

/-- One type for each kind, with ids from one on. -/
def registry : List RuleType :=
  RuleKind.all.map fun kind => ⟨Int64.ofNat (kind.rank + 1), kind⟩

/-- The type that a kind is registered as. -/
def registered (kind : RuleKind) : RuleType :=
  (registry.find? fun type => type.kind = kind).getD ⟨0, kind⟩

def name (type : RuleType) : String := type.kind.name

def toJson (type : RuleType) : Json :=
  .object [("id", .whole type.id.toInt), ("name", .string type.name)]

def reader : Reader RuleType := fun reading node => do
  let (id, name, _) ←
    Record.read [.required "id" .int64 [], .required "name" .string []] reading node
  match RuleKind.ofName? name with
  | some kind => .ok ⟨id, kind⟩
  | none => .error (.unknownRuleType name)

/-- The registered type of a name, if the value suits it. -/
def validate (name : String) (value : Value) : Except RuleError RuleType := do
  let kind ← RuleKind.ofName name
  kind.check value
  .ok (registered kind)

end RuleType

namespace Rule

/-- Makes a rule, if the value suits its type. -/
def make (id : Int64) (type : RuleType) (value : Value) : Except RuleError Rule := do
  type.kind.check value
  .ok ⟨id, type, value⟩

def lets (rule : Rule) (caller : Caller) : Bool :=
  rule.type.kind.lets caller rule.value

/-- Checks the value again, for rules that were not made here. -/
def check (rule : Rule) : Except RuleError Unit :=
  rule.type.kind.check rule.value

def toJson (rule : Rule) : Json :=
  .object
    [("id", .whole rule.id.toInt), ("rule_type", rule.type.toJson), ("value", rule.value.toJson)]

def reader : Reader Rule :=
  Record.reader
    [.required "id" .int64 [], .required "rule_type" RuleType.reader [],
      .defaulted "value" Value.reader .null []]
    fun (id, type, value, _) => ⟨id, type, value⟩

end Rule

end Audience
