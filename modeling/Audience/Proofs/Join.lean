import Mathlib.Data.List.Forall2
import Audience.Content.Tables

namespace Audience

/-! What a join of relation tables gives, and when it gives something.

Every joining function goes through its rows in order, so each is told row by row: the row on the
left gives the record on the right.
-/

section

variable {α β γ : Type} {id : α → Int64} {records : List α} {wanted : Int64} {record : α}

/-- Every row can be given a record exactly when all rows together can. -/
theorem exists_forall₂_iff {gives : α → β → Prop} {rows : List α} :
    (∃ joined, List.Forall₂ gives rows joined) ↔ ∀ row ∈ rows, ∃ record, gives row record := by
  induction rows with
  | nil => simp
  | cons row rest ih =>
      simp only [List.forall₂_cons_left_iff, List.forall_mem_cons, ← ih]
      constructor
      · intro whole
        obtain ⟨_, record, joined, given, restGiven, rfl⟩ := whole
        exact ⟨⟨record, given⟩, joined, restGiven⟩
      · intro parts
        obtain ⟨⟨record, given⟩, joined, restGiven⟩ := parts
        exact ⟨record :: joined, record, joined, given, restGiven, rfl⟩

/-- Where records are built from what is found, only the finding can fail. -/
theorem exists_forall₂_build_iff {found : α → γ → Prop} {build : α → γ → β} {rows : List α} :
    (∃ joined, List.Forall₂ (fun row record => ∃ source, found row source ∧
        record = build row source) rows joined) ↔ ∀ row ∈ rows, ∃ source, found row source := by
  rw [exists_forall₂_iff]
  constructor
  · intro given row member
    obtain ⟨_, source, isFound, rfl⟩ := given row member
    exact ⟨source, isFound⟩
  · intro given row member
    obtain ⟨source, isFound⟩ := given row member
    exact ⟨build row source, source, isFound, rfl⟩

/-- What each row shares with its record, the two lists share. -/
theorem map_eq_map_of_forall₂ {gives : α → β → Prop} {ofRow : α → γ} {ofRecord : β → γ}
    {rows : List α} {joined : List β} (given : List.Forall₂ gives rows joined)
    (shared : ∀ row record, gives row record → ofRow row = ofRecord record) :
    rows.map ofRow = joined.map ofRecord := by
  have same : List.Forall₂ Eq (rows.map ofRow) (joined.map ofRecord) :=
    List.forall₂_map_left_iff.mpr (List.forall₂_map_right_iff.mpr (given.imp shared))
  rwa [List.forall₂_eq_eq_eq] at same

theorem id_of_lastWithId? (found : lastWithId? id records wanted = some record) :
    id record = wanted := by
  simpa using List.find?_some found

theorem exists_lastWithId?_iff :
    (∃ record, lastWithId? id records wanted = some record) ↔ wanted ∈ records.map id := by
  rw [← Option.isSome_iff_exists, lastWithId?, List.find?_isSome]
  simp

end

namespace Tables

variable {tables : Tables} {types : List RuleType} {rules : List Rule}

theorem joinRuleTypes_ok_iff {records : List RuleTypeRecord} :
    joinRuleTypes records = .ok types ↔
      List.Forall₂ (fun record type => ∃ kind, RuleKind.ofName? record.name = some kind ∧
        type = ⟨record.id, kind⟩) records types := by
  induction records generalizing types with
  | nil => simp [joinRuleTypes, eq_comm]
  | cons record rest ih =>
      rw [joinRuleTypes, List.forall₂_cons_left_iff]
      cases named : RuleKind.ofName? record.name with
      | none => simp
      | some kind => simp [Except.map_eq_ok_iff, ih, eq_comm (a := types)]

theorem joinRules_ok_iff {records : List RuleRecord} :
    joinRules types records = .ok rules ↔
      List.Forall₂ (fun record rule => ∃ type,
        lastWithId? RuleType.id types record.ruleTypeId = some type ∧
          rule = ⟨record.id, type, record.value⟩) records rules := by
  induction records generalizing rules with
  | nil => simp [joinRules, eq_comm]
  | cons record rest ih =>
      rw [joinRules, List.forall₂_cons_left_iff]
      cases found : lastWithId? RuleType.id types record.ruleTypeId with
      | none => simp
      | some type => simp [Except.map_eq_ok_iff, ih, eq_comm (a := rules)]

theorem attachedRules_ok_iff {uiItem : Int64} {links : List AttachmentRecord}
    {attached : List Rule} :
    attachedRules rules uiItem links = .ok attached ↔
      List.Forall₂ (fun link rule => lastWithId? Rule.id rules link.ruleId = some rule)
        (links.filter (·.uiItemId = uiItem)) attached := by
  induction links generalizing attached with
  | nil => simp [attachedRules, eq_comm]
  | cons link rest ih =>
      rw [attachedRules]
      by_cases followed : link.uiItemId = uiItem
      · rw [if_pos followed, List.filter_cons_of_pos (by simpa using followed),
          List.forall₂_cons_left_iff]
        cases found : lastWithId? Rule.id rules link.ruleId with
        | none => simp
        | some rule => simp [Except.map_eq_ok_iff, ih, eq_comm (a := attached)]
      · rw [if_neg followed, List.filter_cons_of_neg (by simpa using followed), ih]

theorem placedUiItems_ok_iff {contentItem : Int64} {links : List PlacementRecord}
    {placed : List UiItem} :
    placedUiItems tables rules contentItem links = .ok placed ↔
      List.Forall₂ (fun link item => ∃ record attached,
        lastWithId? UiItemRecord.id tables.uiItems link.uiItemId = some record ∧
          attachedRules rules record.id tables.attachments = .ok attached ∧
          item = ⟨record.id, record.name, record.order, attached⟩)
        (links.filter (·.contentItemId = contentItem)) placed := by
  induction links generalizing placed with
  | nil => simp [placedUiItems, eq_comm]
  | cons link rest ih =>
      rw [placedUiItems]
      by_cases followed : link.contentItemId = contentItem
      · rw [if_pos followed, List.filter_cons_of_pos (by simpa using followed),
          List.forall₂_cons_left_iff]
        cases found : lastWithId? UiItemRecord.id tables.uiItems link.uiItemId with
        | none => simp
        | some record =>
            simp only [Except.bind_eq_ok_iff, ih, Except.ok.injEq, Option.some.injEq]
            constructor
            · intro joined
              obtain ⟨attached, attachedOk, others, othersOk, rfl⟩ := joined
              exact ⟨_, others, ⟨record, attached, rfl, attachedOk, rfl⟩, othersOk, rfl⟩
            · intro given
              obtain ⟨_, others, ⟨_, attached, rfl, attachedOk, rfl⟩, othersOk, rfl⟩ := given
              exact ⟨attached, attachedOk, others, othersOk, rfl⟩
      · rw [if_neg followed, List.filter_cons_of_neg (by simpa using followed), ih]

theorem joinContentItems_ok_iff {records : List ContentItemRecord} {items : List ContentItem} :
    joinContentItems tables rules records = .ok items ↔
      List.Forall₂ (fun record item => ∃ uiItems,
        placedUiItems tables rules record.id tables.placements = .ok uiItems ∧
          item = ⟨record.id, record.name, uiItems⟩) records items := by
  induction records generalizing items with
  | nil => simp [joinContentItems, eq_comm]
  | cons record rest ih =>
      rw [joinContentItems, List.forall₂_cons_left_iff]
      simp only [Except.bind_eq_ok_iff, ih, Except.ok.injEq]
      constructor
      · intro joined
        obtain ⟨uiItems, placed, others, othersOk, rfl⟩ := joined
        exact ⟨_, others, ⟨uiItems, placed, rfl⟩, othersOk, rfl⟩
      · intro given
        obtain ⟨_, others, ⟨uiItems, placed, rfl⟩, othersOk, rfl⟩ := given
        exact ⟨uiItems, placed, others, othersOk, rfl⟩

theorem ids_joinRuleTypes {records : List RuleTypeRecord}
    (joined : joinRuleTypes records = .ok types) :
    records.map RuleTypeRecord.id = types.map RuleType.id := by
  refine map_eq_map_of_forall₂ (joinRuleTypes_ok_iff.mp joined) ?_
  intro record type named
  obtain ⟨kind, _, rfl⟩ := named
  rfl

theorem ids_joinRules {records : List RuleRecord} (joined : joinRules types records = .ok rules) :
    records.map RuleRecord.id = rules.map Rule.id := by
  refine map_eq_map_of_forall₂ (joinRules_ok_iff.mp joined) ?_
  intro record rule typed
  obtain ⟨type, _, rfl⟩ := typed
  rfl

theorem exists_joinRuleTypes_iff {records : List RuleTypeRecord} :
    (∃ types, joinRuleTypes records = .ok types) ↔
      ∀ record ∈ records, (RuleKind.ofName? record.name).isSome := by
  simp only [joinRuleTypes_ok_iff, exists_forall₂_build_iff, Option.isSome_iff_exists]

theorem exists_joinRules_iff {records : List RuleRecord} :
    (∃ rules, joinRules types records = .ok rules) ↔
      ∀ record ∈ records, record.ruleTypeId ∈ types.map RuleType.id := by
  simp only [joinRules_ok_iff, exists_forall₂_build_iff, exists_lastWithId?_iff]

theorem exists_attachedRules_iff {uiItem : Int64} {links : List AttachmentRecord} :
    (∃ attached, attachedRules rules uiItem links = .ok attached) ↔
      ∀ link ∈ links, link.uiItemId = uiItem → link.ruleId ∈ rules.map Rule.id := by
  simp only [attachedRules_ok_iff, exists_forall₂_iff, exists_lastWithId?_iff, List.mem_filter,
    decide_eq_true_eq, and_imp]

theorem exists_placedUiItems_iff {contentItem : Int64} {links : List PlacementRecord} :
    (∃ placed, placedUiItems tables rules contentItem links = .ok placed) ↔
      ∀ link ∈ links, link.contentItemId = contentItem →
        link.uiItemId ∈ tables.uiItems.map UiItemRecord.id ∧
          ∀ attachment ∈ tables.attachments, attachment.uiItemId = link.uiItemId →
            attachment.ruleId ∈ rules.map Rule.id := by
  have known (wanted : Int64) : wanted ∈ tables.uiItems.map UiItemRecord.id ↔
      ∃ record, lastWithId? UiItemRecord.id tables.uiItems wanted = some record :=
    exists_lastWithId?_iff.symm
  simp only [placedUiItems_ok_iff, exists_forall₂_iff, List.mem_filter, decide_eq_true_eq, and_imp,
    known, ← exists_attachedRules_iff]
  constructor
  · intro given link member followed
    obtain ⟨_, record, attached, found, attachedOk, rfl⟩ := given link member followed
    rw [id_of_lastWithId? found] at attachedOk
    exact ⟨⟨record, found⟩, attached, attachedOk⟩
  · intro given link member followed
    obtain ⟨⟨record, found⟩, attached, attachedOk⟩ := given link member followed
    rw [← id_of_lastWithId? found] at attachedOk
    exact ⟨_, record, attached, found, attachedOk, rfl⟩

theorem exists_joinContentItems_iff {records : List ContentItemRecord} :
    (∃ items, joinContentItems tables rules records = .ok items) ↔
      ∀ record ∈ records, ∃ placed,
        placedUiItems tables rules record.id tables.placements = .ok placed := by
  simp only [joinContentItems_ok_iff, exists_forall₂_build_iff]

/-- A join is made of its three parts, of which each uses the one before. -/
theorem join_ok_iff {tree : ContentTree} :
    tables.join = .ok tree ↔ ∃ types rules,
      joinRuleTypes tables.ruleTypes = .ok types ∧ joinRules types tables.rules = .ok rules ∧
        joinContentItems tables rules tables.contentItems = .ok tree.items := by
  obtain ⟨items⟩ := tree
  simp [join, Except.bind_eq_ok_iff]

end Tables

end Audience
