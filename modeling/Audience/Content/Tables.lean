import Audience.Content.Tree

namespace Audience

/-! Content as relation tables.

A document holds the tables of one data version.  Joining them follows the links from the content
items on; a link that is followed must lead to a record, and of records with one id the last
counts.
-/

structure ContentItemRecord where
  id : Int64
  name : String
deriving Repr

structure UiItemRecord where
  id : Int64
  name : String
  order : Int64
deriving Repr

/-- Places a UI item in a content item. -/
structure PlacementRecord where
  id : Int64
  contentItemId : Int64
  uiItemId : Int64
deriving Repr

structure RuleTypeRecord where
  id : Int64
  name : String
deriving Repr

structure RuleRecord where
  id : Int64
  ruleTypeId : Int64
  value : Value
deriving Repr

/-- Attaches a rule to a UI item. -/
structure AttachmentRecord where
  id : Int64
  uiItemId : Int64
  ruleId : Int64
deriving Repr

structure Tables where
  contentItems : List ContentItemRecord
  uiItems : List UiItemRecord
  placements : List PlacementRecord
  ruleTypes : List RuleTypeRecord
  rules : List RuleRecord
  attachments : List AttachmentRecord
  lastUpdated : Option String
  lastUpdatedBy : Option String
deriving Repr

/-- The tables of one data version. -/
structure VersionDocument where
  version : String
  tables : Tables
deriving Repr

/-- Why tables do not join. -/
inductive JoinError where
  | unknownRuleType (name : String)
  | ruleWithoutType (rule type : Int64)
  | placementWithoutUiItem (contentItem uiItem : Int64)
  | attachmentWithoutRule (uiItem rule : Int64)
deriving Repr, DecidableEq

def showId (id : Int64) : String :=
  String.ofList (decimalChars id.toInt)

def JoinError.message : JoinError → String
  | unknownRuleType name => (RuleError.unknownType name).message
  | ruleWithoutType rule type =>
      "rule " ++ showId rule ++ " references unknown rule type " ++ showId type
  | placementWithoutUiItem contentItem uiItem =>
      "content item " ++ showId contentItem ++ " references unknown ui item " ++ showId uiItem
  | attachmentWithoutRule uiItem rule =>
      "ui item " ++ showId uiItem ++ " references unknown rule " ++ showId rule

/-- The last record with a given id. -/
def lastWithId? {α : Type} (id : α → Int64) (records : List α) (wanted : Int64) : Option α :=
  records.reverse.find? fun record => id record == wanted

namespace Tables

/-- The rule types, if all their names are known. -/
def joinRuleTypes : List RuleTypeRecord → Except JoinError (List RuleType)
  | [] => .ok []
  | record :: rest =>
      match RuleKind.ofName? record.name with
      | none => .error (.unknownRuleType record.name)
      | some kind => (joinRuleTypes rest).map (⟨record.id, kind⟩ :: ·)

/-- The rules, if all their types are known. -/
def joinRules (types : List RuleType) : List RuleRecord → Except JoinError (List Rule)
  | [] => .ok []
  | record :: rest =>
      match lastWithId? RuleType.id types record.ruleTypeId with
      | none => .error (.ruleWithoutType record.id record.ruleTypeId)
      | some type => (joinRules types rest).map (⟨record.id, type, record.value⟩ :: ·)

/-- The rules that the given attachments put on a UI item. -/
def attachedRules (rules : List Rule) (uiItem : Int64) :
    List AttachmentRecord → Except JoinError (List Rule)
  | [] => .ok []
  | link :: rest =>
      if link.uiItemId = uiItem then
        match lastWithId? Rule.id rules link.ruleId with
        | none => .error (.attachmentWithoutRule uiItem link.ruleId)
        | some rule => (attachedRules rules uiItem rest).map (rule :: ·)
      else attachedRules rules uiItem rest

/-- The UI items that the given placements put in a content item. -/
def placedUiItems (tables : Tables) (rules : List Rule) (contentItem : Int64) :
    List PlacementRecord → Except JoinError (List UiItem)
  | [] => .ok []
  | link :: rest =>
      if link.contentItemId = contentItem then
        match lastWithId? UiItemRecord.id tables.uiItems link.uiItemId with
        | none => .error (.placementWithoutUiItem contentItem link.uiItemId)
        | some record => do
            let attached ← attachedRules rules record.id tables.attachments
            let others ← placedUiItems tables rules contentItem rest
            .ok (⟨record.id, record.name, record.order, attached⟩ :: others)
      else placedUiItems tables rules contentItem rest

def joinContentItems (tables : Tables) (rules : List Rule) :
    List ContentItemRecord → Except JoinError (List ContentItem)
  | [] => .ok []
  | record :: rest => do
      let uiItems ← placedUiItems tables rules record.id tables.placements
      let others ← joinContentItems tables rules rest
      .ok (⟨record.id, record.name, uiItems⟩ :: others)

/-- Joins the tables into a content tree. -/
def join (tables : Tables) : Except JoinError ContentTree := do
  let types ← joinRuleTypes tables.ruleTypes
  let rules ← joinRules types tables.rules
  let items ← joinContentItems tables rules tables.contentItems
  .ok ⟨items⟩

end Tables

def ContentItemRecord.reader : Reader ContentItemRecord :=
  Record.reader [.required "id" .int64 [], .required "name" .string []]
    fun (id, name, _) => ⟨id, name⟩

def UiItemRecord.reader : Reader UiItemRecord :=
  Record.reader
    [.required "id" .int64 [], .required "name" .string [], .required "order" .int64 []]
    fun (id, name, order, _) => ⟨id, name, order⟩

def PlacementRecord.reader : Reader PlacementRecord :=
  Record.reader
    [.required "id" .int64 [], .required "content_item_id" .int64 [],
      .required "ui_item_id" .int64 []]
    fun (id, contentItemId, uiItemId, _) => ⟨id, contentItemId, uiItemId⟩

def RuleTypeRecord.reader : Reader RuleTypeRecord :=
  Record.reader [.required "id" .int64 [], .required "name" .string []]
    fun (id, name, _) => ⟨id, name⟩

def RuleRecord.reader : Reader RuleRecord :=
  Record.reader
    [.required "id" .int64 [], .required "rule_type_id" .int64 [],
      .defaulted "value" Value.reader .null []]
    fun (id, ruleTypeId, value, _) => ⟨id, ruleTypeId, value⟩

def AttachmentRecord.reader : Reader AttachmentRecord :=
  Record.reader
    [.required "id" .int64 [], .required "ui_item_id" .int64 [], .required "rule_id" .int64 []]
    fun (id, uiItemId, ruleId, _) => ⟨id, uiItemId, ruleId⟩

def Tables.reader : Reader Tables :=
  Record.reader
    [.defaulted "content_items" (.list ContentItemRecord.reader) [] [],
      .defaulted "ui_items" (.list UiItemRecord.reader) [] [],
      .defaulted "content_items_ui_items" (.list PlacementRecord.reader) [] [],
      .defaulted "rule_types" (.list RuleTypeRecord.reader) [] [],
      .defaulted "rules" (.list RuleRecord.reader) [] [],
      .defaulted "rules_ui_items" (.list AttachmentRecord.reader) [] [],
      .optional "last_updated" .string [], .optional "last_updated_by" .string []]
    fun (contentItems, uiItems, placements, ruleTypes, rules, attachments, lastUpdated,
        lastUpdatedBy, _) =>
      ⟨contentItems, uiItems, placements, ruleTypes, rules, attachments, lastUpdated,
        lastUpdatedBy⟩

def VersionDocument.reader : Reader VersionDocument :=
  Record.reader [.required "version" .string [], .required "data" Tables.reader []]
    fun (version, tables, _) => ⟨version, tables⟩

end Audience
