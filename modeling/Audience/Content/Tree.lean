import Audience.Rule.Type

namespace Audience

/-! Content trees: content items, the UI items in them, and the rules on those.

Content items keep the order in which they are stored.  UI items have an order of their own, which
counts when they are shown.
-/

/-- A UI element with the rules that decide who sees it. -/
structure UiItem where
  id : Int64
  name : String
  order : Int64
  rules : List Rule
deriving Repr

/-- A named section of the UI. -/
structure ContentItem where
  id : Int64
  name : String
  uiItems : List UiItem
deriving Repr

/-- The content of one data version. -/
structure ContentTree where
  items : List ContentItem
deriving Repr

/-- All data versions by their ids. -/
abbrev Catalog := SortedMap ContentTree

/-- A caller sees a UI item when all its rules let them. -/
def UiItem.isVisible (item : UiItem) (caller : Caller) : Bool :=
  item.rules.all (·.lets caller)

namespace RuleType

/-- The order of rule types: by id, then by kind. -/
def precedes (first second : RuleType) : Bool :=
  decide (first.id < second.id) ||
    (first.id == second.id && decide (first.kind.rank < second.kind.rank))

/-- Adds a type to ascending types, unless it is among them. -/
def insertAscending (type : RuleType) : List RuleType → List RuleType
  | [] => [type]
  | head :: rest =>
      if type.precedes head then type :: head :: rest
      else if head.precedes type then head :: insertAscending type rest
      else head :: rest

end RuleType

namespace ContentTree

def empty : ContentTree := ⟨[]⟩

/-- The rules of all UI items, in tree order. -/
def rules (tree : ContentTree) : List Rule :=
  tree.items.flatMap fun item => item.uiItems.flatMap UiItem.rules

theorem mem_rules_iff {tree : ContentTree} {rule : Rule} :
    rule ∈ tree.rules ↔ ∃ item ∈ tree.items, ∃ uiItem ∈ item.uiItems, rule ∈ uiItem.rules := by
  simp [rules, List.mem_flatMap]

def uiItemCount (tree : ContentTree) : Nat :=
  (tree.items.flatMap ContentItem.uiItems).length

/-- The rule types in use, each once and ascending. -/
def ruleTypes (tree : ContentTree) : List RuleType :=
  tree.rules.foldl (fun types rule => RuleType.insertAscending rule.type types) []

end ContentTree

def UiItem.toJson (item : UiItem) : Json :=
  .object ([("id", .whole item.id.toInt), ("name", .string item.name),
      ("order", .whole item.order.toInt)] ++
    if item.rules.isEmpty then [] else [("rules", .array (item.rules.map Rule.toJson))])

def UiItem.reader : Reader UiItem :=
  Record.reader
    [.required "id" .int64 [], .required "name" .string [], .required "order" .int64 [],
      .defaulted "rules" (.list Rule.reader) [] []]
    fun (id, name, order, rules, _) => ⟨id, name, order, rules⟩

def ContentItem.toJson (item : ContentItem) : Json :=
  .object [("id", .whole item.id.toInt), ("name", .string item.name),
    ("ui-items", .array (item.uiItems.map UiItem.toJson))]

def ContentItem.reader : Reader ContentItem :=
  Record.reader
    [.required "id" .int64 [], .required "name" .string [],
      .defaulted "ui-items" (.list UiItem.reader) [] ["ui_items"]]
    fun (id, name, uiItems, _) => ⟨id, name, uiItems⟩

def ContentTree.toJson (tree : ContentTree) : Json :=
  .object [("items", .array (tree.items.map ContentItem.toJson))]

def ContentTree.reader : Reader ContentTree :=
  Record.reader [.defaulted "items" (.list ContentItem.reader) [] []] fun (items, _) => ⟨items⟩

def Catalog.toJson (catalog : Catalog) : Json :=
  .object (catalog.entries.map fun (version, tree) => (version, tree.toJson))

end Audience
