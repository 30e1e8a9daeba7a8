import Audience.Proofs.References

namespace Audience

/-! Which tree the tables of a document stand for.

`Tables.Joins` relates tables to their tree row by row: each row gives one part of the tree, in the
order of the rows, and nothing else gives one.  A join gives the tree that the tables stand for.
-/

section

variable {α β : Type} {id : α → Int64} {records : List α} {wanted : Int64} {record : α}

/-- A record has an id, and no record behind it has. -/
def IsLast (id : α → Int64) (records : List α) (wanted : Int64) (record : α) : Prop :=
  ∃ before after, records = before ++ record :: after ∧ id record = wanted ∧
    ∀ later ∈ after, id later ≠ wanted

theorem lastWithId?_eq_some_iff :
    lastWithId? id records wanted = some record ↔ IsLast id records wanted record := by
  rw [lastWithId?, List.find?_eq_some_iff_append]
  constructor
  · intro found
    obtain ⟨same, behind, front, parts, others⟩ := found
    refine ⟨front.reverse, behind.reverse, ?_, by simpa using same, by simpa using others⟩
    rw [← List.reverse_reverse records, parts]
    simp
  · intro last
    obtain ⟨before, after, rfl, same, others⟩ := last
    exact ⟨by simpa using same, after.reverse, before.reverse, by simp, by simpa using others⟩

theorem lastWithId?_cons (head : α) (rest : List α) :
    lastWithId? id (head :: rest) wanted =
      (lastWithId? id rest wanted).or (if id head = wanted then some head else none) := by
  rw [lastWithId?, List.reverse_cons, List.find?_append, List.find?_singleton, lastWithId?]
  simp

/-- Where each row gives a record of its own id, the last row with an id gives the last record
with it. -/
theorem rel_lastWithId? {gives : α → β → Prop} {idOf : β → Int64} {joined : List β}
    (shared : ∀ row record, gives row record → id row = idOf record)
    (given : List.Forall₂ gives records joined) (wanted : Int64) :
    Option.Rel gives (lastWithId? id records wanted) (lastWithId? idOf joined wanted) := by
  induction given with
  | nil => exact .none
  | @cons row record rows joined here later ih =>
      rw [lastWithId?_cons, lastWithId?_cons, shared row record here]
      generalize lastWithId? id rows wanted = lastRow at ih
      generalize lastWithId? idOf joined wanted = lastRecord at ih
      cases ih with
      | some found => exact .some found
      | none =>
          by_cases same : idOf record = wanted
          · simpa [same] using Option.Rel.some here
          · simp [same]

/-- A record is looked up among those given by looking up the row that gives it. -/
theorem lastWithId?_given_iff {gives : α → β → Prop} {idOf : β → Int64} {joined : List β}
    {found : β} (shared : ∀ row record, gives row record → id row = idOf record)
    (functional : ∀ row first second, gives row first → gives row second → first = second)
    (given : List.Forall₂ gives records joined) :
    lastWithId? idOf joined wanted = some found ↔
      ∃ row, IsLast id records wanted row ∧ gives row found := by
  have related := rel_lastWithId? shared given wanted
  simp only [← lastWithId?_eq_some_iff]
  generalize lastWithId? id records wanted = lastRow at related
  generalize lastWithId? idOf joined wanted = lastRecord at related
  cases related with
  | none => simp
  | @some row record here =>
      simp only [Option.some.injEq]
      constructor
      · intro same
        exact ⟨row, rfl, same ▸ here⟩
      · intro chosen
        obtain ⟨_, rfl, gives⟩ := chosen
        exact functional row record found here gives

end

namespace Tables

/-- A row that attaches a rule gives the last rule of the id that it names, of the kind that the
last type of the rule's type id is named for. -/
inductive GivesRule (tables : Tables) (link : AttachmentRecord) : Rule → Prop where
  | intro {record : RuleRecord} {type : RuleTypeRecord} {kind : RuleKind}
      (found : IsLast RuleRecord.id tables.rules link.ruleId record)
      (typed : IsLast RuleTypeRecord.id tables.ruleTypes record.ruleTypeId type)
      (named : RuleKind.ofName? type.name = some kind) :
      GivesRule tables link ⟨record.id, ⟨type.id, kind⟩, record.value⟩

/-- A row that places a UI item gives the last UI item of the id that it names, with a rule for
each row that attaches one. -/
inductive GivesUiItem (tables : Tables) (link : PlacementRecord) : UiItem → Prop where
  | intro {record : UiItemRecord} {rules : List Rule}
      (found : IsLast UiItemRecord.id tables.uiItems link.uiItemId record)
      (attached : List.Forall₂ tables.GivesRule
        (tables.attachments.filter (·.uiItemId = link.uiItemId)) rules) :
      GivesUiItem tables link ⟨record.id, record.name, record.order, rules⟩

/-- The record of a content item gives it, with a UI item for each row that places one. -/
inductive GivesContentItem (tables : Tables) (record : ContentItemRecord) : ContentItem → Prop where
  | intro {uiItems : List UiItem}
      (placed : List.Forall₂ tables.GivesUiItem
        (tables.placements.filter (·.contentItemId = record.id)) uiItems) :
      GivesContentItem tables record ⟨record.id, record.name, uiItems⟩

/-- The tree that tables stand for has a content item for each record of one. -/
def Joins (tables : Tables) (tree : ContentTree) : Prop :=
  List.Forall₂ tables.GivesContentItem tables.contentItems tree.items

variable {tables : Tables} {types : List RuleType} {rules : List Rule} {wanted : Int64}

theorem lastWithId?_joinRuleTypes {type : RuleType}
    (joined : joinRuleTypes tables.ruleTypes = .ok types) :
    lastWithId? RuleType.id types wanted = some type ↔ ∃ record,
      IsLast RuleTypeRecord.id tables.ruleTypes wanted record ∧
        ∃ kind, RuleKind.ofName? record.name = some kind ∧ type = ⟨record.id, kind⟩ := by
  refine lastWithId?_given_iff ?_ ?_ (joinRuleTypes_ok_iff.mp joined)
  · intro record type named
    obtain ⟨kind, _, rfl⟩ := named
    rfl
  · intro record first second firstNamed secondNamed
    obtain ⟨kind, named, rfl⟩ := firstNamed
    obtain ⟨other, otherNamed, rfl⟩ := secondNamed
    rw [Option.some.inj (named.symm.trans otherNamed)]

theorem lastWithId?_joinRules (typesOk : joinRuleTypes tables.ruleTypes = .ok types)
    (rulesOk : joinRules types tables.rules = .ok rules) (link : AttachmentRecord) (rule : Rule) :
    lastWithId? Rule.id rules link.ruleId = some rule ↔ tables.GivesRule link rule := by
  have looked : lastWithId? Rule.id rules link.ruleId = some rule ↔ ∃ record,
      IsLast RuleRecord.id tables.rules link.ruleId record ∧ ∃ type,
        lastWithId? RuleType.id types record.ruleTypeId = some type ∧
          rule = ⟨record.id, type, record.value⟩ := by
    refine lastWithId?_given_iff ?_ ?_ (joinRules_ok_iff.mp rulesOk)
    · intro record rule typed
      obtain ⟨type, _, rfl⟩ := typed
      rfl
    · intro record first second firstTyped secondTyped
      obtain ⟨type, typed, rfl⟩ := firstTyped
      obtain ⟨other, otherTyped, rfl⟩ := secondTyped
      rw [Option.some.inj (typed.symm.trans otherTyped)]
  rw [looked]
  simp only [lastWithId?_joinRuleTypes typesOk]
  constructor
  · intro joined
    obtain ⟨record, found, _, ⟨type, typed, kind, named, rfl⟩, rfl⟩ := joined
    exact .intro found typed named
  · intro given
    cases given with
    | @intro record type kind found typed named =>
        exact ⟨record, found, _, ⟨type, typed, kind, named, rfl⟩, rfl⟩

theorem placedUiItems_ok_iff_gives {contentItem : Int64} {placed : List UiItem}
    (looked : ∀ link rule, lastWithId? Rule.id rules link.ruleId = some rule ↔
      tables.GivesRule link rule) :
    placedUiItems tables rules contentItem tables.placements = .ok placed ↔
      List.Forall₂ tables.GivesUiItem
        (tables.placements.filter (·.contentItemId = contentItem)) placed := by
  have same : ∀ (link : PlacementRecord) (item : UiItem), (∃ record attached,
      lastWithId? UiItemRecord.id tables.uiItems link.uiItemId = some record ∧
        attachedRules rules record.id tables.attachments = .ok attached ∧
        item = ⟨record.id, record.name, record.order, attached⟩) ↔
      tables.GivesUiItem link item := by
    intro link item
    simp only [attachedRules_ok_iff, looked]
    constructor
    · intro given
      obtain ⟨record, rules, found, attached, rfl⟩ := given
      rw [id_of_lastWithId? found] at attached
      exact .intro (lastWithId?_eq_some_iff.mp found) attached
    · intro given
      cases given with
      | @intro record rules found attached =>
          have found := lastWithId?_eq_some_iff.mpr found
          rw [← id_of_lastWithId? found] at attached
          exact ⟨record, rules, found, attached, rfl⟩
  simp only [placedUiItems_ok_iff, same]

theorem joinContentItems_ok_iff_joins {tree : ContentTree}
    (looked : ∀ link rule, lastWithId? Rule.id rules link.ruleId = some rule ↔
      tables.GivesRule link rule) :
    joinContentItems tables rules tables.contentItems = .ok tree.items ↔ tables.Joins tree := by
  have same : ∀ (record : ContentItemRecord) (item : ContentItem), (∃ uiItems,
      placedUiItems tables rules record.id tables.placements = .ok uiItems ∧
        item = ⟨record.id, record.name, uiItems⟩) ↔ tables.GivesContentItem record item := by
    intro record item
    simp only [placedUiItems_ok_iff_gives looked]
    constructor
    · intro given
      obtain ⟨uiItems, placed, rfl⟩ := given
      exact .intro placed
    · intro given
      cases given with
      | @intro uiItems placed => exact ⟨uiItems, placed, rfl⟩
  simp only [joinContentItems_ok_iff, same, Joins]

theorem join_ok_iff_joins {tree : ContentTree} :
    tables.join = .ok tree ↔ tables.NamesKnown ∧
      (∀ rule ∈ tables.rules, rule.ruleTypeId ∈ tables.ruleTypes.map RuleTypeRecord.id) ∧
      tables.Joins tree := by
  constructor
  · intro joined
    obtain ⟨names, followed⟩ := exists_join_iff.mp ⟨tree, joined⟩
    obtain ⟨types, rules, typesOk, rulesOk, itemsOk⟩ := join_ok_iff.mp joined
    have looked := lastWithId?_joinRules typesOk rulesOk
    exact ⟨names, followed.ruleType, (joinContentItems_ok_iff_joins looked).mp itemsOk⟩
  · intro conditions
    obtain ⟨names, ruleType, joins⟩ := conditions
    obtain ⟨types, typesOk⟩ := exists_joinRuleTypes_iff.mpr names
    rw [ids_joinRuleTypes typesOk] at ruleType
    obtain ⟨rules, rulesOk⟩ := exists_joinRules_iff.mpr ruleType
    have looked := lastWithId?_joinRules typesOk rulesOk
    exact join_ok_iff.mpr
      ⟨types, rules, typesOk, rulesOk, (joinContentItems_ok_iff_joins looked).mpr joins⟩

end Tables

namespace Record

variable {reading : Reading} {field : Field} {fields : List Field}

theorem store_cons {key : String} {node : Node} {slots filled : Slots (field :: fields)}
    (stored : store reading key node (field :: fields) slots = some (.ok filled)) :
    (field.isNamed key = true ∧ filled.2 = slots.2) ∨
      (field.isNamed key = false ∧ filled.1 = slots.1 ∧
        store reading key node fields slots.2 = some (.ok filled.2)) := by
  obtain ⟨slot, slots⟩ := slots
  simp only [store] at stored
  cases named : field.isNamed key with
  | true =>
      simp only [named, if_true] at stored
      cases slot with
      | some value => cases stored
      | none =>
          obtain ⟨value, _, rfl⟩ := Except.map_eq_ok_iff.mp (Option.some.inj stored)
          exact .inl ⟨rfl, rfl⟩
  | false =>
      simp only [named, Bool.false_eq_true, if_false] at stored
      obtain ⟨outcome, storedLater, mapped⟩ := Option.map_eq_some_iff.mp stored
      obtain ⟨rest, rfl, rfl⟩ := Except.map_eq_ok_iff.mp mapped
      exact .inr ⟨rfl, rfl, storedLater⟩

theorem complete_cons {slots : Slots (field :: fields)} {values : Values (field :: fields)}
    (completed : complete (field :: fields) slots = .ok values) :
    slots.1.or field.absent = some values.1 ∧ complete fields slots.2 = .ok values.2 := by
  obtain ⟨slot, slots⟩ := slots
  simp only [complete] at completed
  cases found : slot.or field.absent with
  | none => simp [found] at completed
  | some value =>
      rw [found] at completed
      obtain ⟨rest, restOk, rfl⟩ := Except.map_eq_ok_iff.mp completed
      exact ⟨rfl, restOk⟩

theorem inOrder_cons {closed : Bool} {node : Node} {rest : List Node}
    {values : Values (field :: fields)}
    (ordered : inOrder reading closed (field :: fields) (node :: rest) = .ok values) :
    inOrder reading closed fields rest = .ok values.2 := by
  simp only [inOrder, Except.bind_eq_ok_iff] at ordered
  obtain ⟨_, _, others, othersOk, same⟩ := ordered
  cases same
  exact othersOk

theorem inOrder_nil {closed : Bool} {values : Values (field :: fields)}
    (ordered : inOrder reading closed (field :: fields) [] = .ok values) :
    field.beyondEnd = some values.1 := by
  simp only [inOrder] at ordered
  cases closed with
  | false => simp at ordered
  | true =>
      cases beyond : field.beyondEnd with
      | none => simp [beyond] at ordered
      | some value =>
          simp only [beyond, if_true] at ordered
          obtain ⟨_, _, rfl⟩ := Except.map_eq_ok_iff.mp ordered
          rfl

end Record

namespace RuleRecord

/-- The node of a rule that has no value. -/
inductive Valueless : Node → Prop where
  | object {fields : List (Option String × Node)} {closed : Bool}
      (absent : ∀ field ∈ fields, field.1 ≠ some "value") : Valueless (.object fields closed)
  | array {id ruleTypeId : Node} {closed : Bool} : Valueless (.array [id, ruleTypeId] closed)

def fields : List Field :=
  [.required "id" .int64 [], .required "rule_type_id" .int64 [],
    .defaulted "value" Value.reader .null []]

variable {reading : Reading} {node : Node} {slots filled : Record.Slots fields}

theorem store_value {key : String} (other : key ≠ "value")
    (stored : Record.store reading key node fields slots = some (.ok filled)) :
    filled.2.2.1 = slots.2.2.1 := by
  rcases Record.store_cons stored with ⟨_, kept⟩ | ⟨_, _, stored⟩
  · rw [kept]
  · rcases Record.store_cons stored with ⟨_, kept⟩ | ⟨_, _, stored⟩
    · rw [kept]
    · rcases Record.store_cons stored with ⟨named, _⟩ | ⟨_, kept, _⟩
      · simp [Field.isNamed, Field.defaulted, other] at named
      · exact kept

theorem collect_value {entries : List (Option String × Node)}
    (absent : ∀ entry ∈ entries, entry.1 ≠ some "value")
    (collected : Record.collect reading fields slots entries = .ok filled) :
    filled.2.2.1 = slots.2.2.1 := by
  induction entries generalizing slots with
  | nil =>
      cases collected
      rfl
  | cons entry rest ih =>
      obtain ⟨here, later⟩ := List.forall_mem_cons.mp absent
      obtain ⟨key, node⟩ := entry
      cases key with
      | none => simp [Record.collect] at collected
      | some key =>
          have other : key ≠ "value" := fun same => here (congrArg some same)
          rw [Record.collect] at collected
          cases stored : Record.store reading key node fields slots with
          | none =>
              simp only [stored, Except.bind_eq_ok_iff] at collected
              obtain ⟨_, _, collected⟩ := collected
              exact ih later collected
          | some outcome =>
              simp only [stored, Except.bind_eq_ok_iff] at collected
              obtain ⟨next, rfl, collected⟩ := collected
              exact (ih later collected).trans (store_value other stored)

theorem value_of_valueless {record : RuleRecord} (valueless : Valueless node)
    (decoded : RuleRecord.reader reading node = .ok record) : record.value = .null := by
  obtain ⟨⟨id, ruleTypeId, value, _⟩, read, rfl⟩ := Except.map_eq_ok_iff.mp decoded
  cases valueless with
  | @object entries closed absent =>
      simp only [Record.read, Except.bind_eq_ok_iff] at read
      obtain ⟨inner, _, read⟩ := read
      simp only [Record.ofObject, Except.bind_eq_ok_iff] at read
      obtain ⟨slots, collected, read⟩ := read
      have empty : slots.2.2.1 = none := collect_value absent collected
      cases closed with
      | false => simp at read
      | true =>
          have later := (Record.complete_cons (Record.complete_cons read).2).2
          have filled := (Record.complete_cons later).1
          rw [empty] at filled
          exact (Option.some.inj filled).symm
  | @array first second closed =>
      simp only [Record.read, Except.bind_eq_ok_iff] at read
      obtain ⟨inner, _, read⟩ := read
      have filled := Record.inOrder_nil (Record.inOrder_cons (Record.inOrder_cons read))
      exact (Option.some.inj filled).symm

end RuleRecord

namespace Tables

/-- Tables of known rule types and without dangling references have a tree.  A join gives just the
tree that the tables stand for, and a rule of which a file gives no value has the value null. -/
theorem relational_join (tables : Tables) :
    (tables.NamesKnown → tables.Resolved → ∃ tree, tables.join = .ok tree) ∧
      (∀ tree, tables.join = .ok tree ↔ tables.NamesKnown ∧
        (∀ rule ∈ tables.rules, rule.ruleTypeId ∈ tables.ruleTypes.map RuleTypeRecord.id) ∧
        tables.Joins tree) ∧
      ∀ reading node record, RuleRecord.Valueless node →
        RuleRecord.reader reading node = .ok record → record.value = .null := by
  refine ⟨?_, fun tree => join_ok_iff_joins, fun _ _ _ => RuleRecord.value_of_valueless⟩
  intro names resolved
  exact exists_join_iff.mpr ⟨names, (resolved_iff.mp resolved).1⟩

/-- Ids that stand twice in every table, and a UI item that is placed twice. -/
def repeatedIds : Tables where
  contentItems := [⟨1, "home"⟩, ⟨1, "browse"⟩]
  uiItems := [⟨1, "weather", 2⟩, ⟨1, "dining", 1⟩]
  placements := [⟨1, 1, 1⟩, ⟨2, 1, 1⟩]
  ruleTypes := [⟨1, "roles"⟩, ⟨1, "enable"⟩]
  rules := [⟨1, 1, .bool false⟩, ⟨1, 1, .bool true⟩]
  attachments := [⟨1, 1, 1⟩]
  lastUpdated := none
  lastUpdatedBy := none

theorem repeatedIds_join :
    repeatedIds.NamesKnown ∧ repeatedIds.Resolved ∧
      (∃ tree, repeatedIds.join = .ok tree ∧ repeatedIds.Joins tree) ∧
      ∃ record, RuleRecord.reader (.text 0) (.array [.whole 1, .whole 1] true) = .ok record ∧
        record.value = .null := by
  obtain ⟨succeeds, gives, valueless⟩ := relational_join repeatedIds
  have names : repeatedIds.NamesKnown := by
    simp only [NamesKnown, repeatedIds, List.forall_mem_cons]
    decide
  have resolved : repeatedIds.Resolved :=
    { ruleType := by decide
      placementContentItem := by decide
      placementUiItem := by decide
      attachmentUiItem := by decide
      attachmentRule := by decide }
  obtain ⟨tree, joined⟩ := succeeds names resolved
  refine ⟨names, resolved, ⟨tree, joined, ((gives tree).mp joined).2.2⟩, ⟨1, 1, .null⟩, rfl, ?_⟩
  exact valueless (.text 0) (.array [.whole 1, .whole 1] true) ⟨1, 1, .null⟩ .array rfl

end Tables

end Audience
