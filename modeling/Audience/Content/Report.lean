import Audience.Content.Source

namespace Audience

/-! Reports on loaded content: its size, and which of its rules have values that do not suit
them. -/

/-- A rule whose value does not suit its type. -/
structure InvalidRule where
  rule : Rule
  error : RuleError
deriving Repr

structure VersionReport where
  version : String
  contentItems : Nat
  uiItems : Nat
  rules : Nat
  invalidRules : List InvalidRule
deriving Repr

/-- Reports on all data versions, by ascending version. -/
structure ContentReport where
  versions : List VersionReport
deriving Repr

def InvalidRule.message (problem : InvalidRule) : String :=
  "rule " ++ showId problem.rule.id ++ " (" ++ problem.rule.type.name ++ "): " ++
    problem.error.message

/-- The problem of a rule, if it has one. -/
def Rule.invalid? (rule : Rule) : Option InvalidRule :=
  match rule.check with
  | .ok _ => none
  | .error error => some ⟨rule, error⟩

theorem Rule.invalid?_eq_none_iff (rule : Rule) :
    rule.invalid? = none ↔ rule.type.kind.accepts rule.value = true := by
  rw [Rule.invalid?, Rule.check, RuleKind.check, RuleKind.accepts]
  cases rule.type.kind.valueProblem? rule.value <;> simp

def ContentTree.report (tree : ContentTree) (version : String) : VersionReport :=
  { version
    contentItems := tree.items.length
    uiItems := tree.uiItemCount
    rules := tree.rules.length
    invalidRules := tree.rules.filterMap Rule.invalid? }

def Catalog.report (catalog : Catalog) : ContentReport :=
  ⟨catalog.entries.map fun (version, tree) => tree.report version⟩

namespace VersionReport

def lines (report : VersionReport) : List String :=
  (report.version ++ ": " ++ toString report.contentItems ++ " content items, " ++
      toString report.uiItems ++ " ui items, " ++ toString report.rules ++ " rules") ::
    report.invalidRules.map fun problem => "  invalid " ++ problem.message

def toJson (report : VersionReport) : Json :=
  .object [("version", .string report.version), ("content_items", .whole report.contentItems),
    ("ui_items", .whole report.uiItems), ("rules", .whole report.rules),
    ("invalid_rules", .strings (report.invalidRules.map InvalidRule.message))]

end VersionReport

namespace ContentReport

def invalidCount (report : ContentReport) : Nat :=
  (report.versions.flatMap VersionReport.invalidRules).length

def isOk (report : ContentReport) : Bool :=
  report.invalidCount == 0

/-- The report as text: a line for each version and each invalid rule, and a verdict. -/
def text (report : ContentReport) : String :=
  let verdict :=
    if report.isOk then "content OK" else toString report.invalidCount ++ " invalid rule value(s)"
  "\n".intercalate (report.versions.flatMap VersionReport.lines ++ [verdict])

def toJson (report : ContentReport) : Json :=
  .object [("versions", .array (report.versions.map VersionReport.toJson))]

end ContentReport

end Audience
