import Audience.Content.Source
import Audience.Proofs.Join

namespace Audience

/-! Which references of a content file are looked at when it is loaded.

A join starts at the content items and follows placements and attachments from there.  A row that
it does not come to is stray, and what a stray row names need not exist.
-/

namespace Tables

/-- The rule types go by names that are known. -/
def NamesKnown (tables : Tables) : Prop :=
  ∀ record ∈ tables.ruleTypes, (RuleKind.ofName? record.name).isSome

/-- Each row names records that exist. -/
structure Resolved (tables : Tables) : Prop where
  ruleType : ∀ rule ∈ tables.rules, rule.ruleTypeId ∈ tables.ruleTypes.map RuleTypeRecord.id
  placementContentItem : ∀ link ∈ tables.placements,
    link.contentItemId ∈ tables.contentItems.map ContentItemRecord.id
  placementUiItem : ∀ link ∈ tables.placements,
    link.uiItemId ∈ tables.uiItems.map UiItemRecord.id
  attachmentUiItem : ∀ link ∈ tables.attachments,
    link.uiItemId ∈ tables.uiItems.map UiItemRecord.id
  attachmentRule : ∀ link ∈ tables.attachments, link.ruleId ∈ tables.rules.map RuleRecord.id

/-- A content item that exists has the UI item placed in it. -/
def Places (tables : Tables) (uiItem : Int64) : Prop :=
  ∃ link ∈ tables.placements,
    link.contentItemId ∈ tables.contentItems.map ContentItemRecord.id ∧ link.uiItemId = uiItem

/-- The rows on the way from the content items name records that exist. -/
structure FollowedResolve (tables : Tables) : Prop where
  ruleType : ∀ rule ∈ tables.rules, rule.ruleTypeId ∈ tables.ruleTypes.map RuleTypeRecord.id
  placement : ∀ uiItem, tables.Places uiItem → uiItem ∈ tables.uiItems.map UiItemRecord.id
  attachment : ∀ link ∈ tables.attachments, tables.Places link.uiItemId →
    link.ruleId ∈ tables.rules.map RuleRecord.id

/-- No placement is off the way, and the attachments off it name records that exist. -/
structure StrayResolve (tables : Tables) : Prop where
  placement : ∀ link ∈ tables.placements,
    link.contentItemId ∈ tables.contentItems.map ContentItemRecord.id
  attachmentUiItem : ∀ link ∈ tables.attachments, ¬tables.Places link.uiItemId →
    link.uiItemId ∈ tables.uiItems.map UiItemRecord.id
  attachmentRule : ∀ link ∈ tables.attachments, ¬tables.Places link.uiItemId →
    link.ruleId ∈ tables.rules.map RuleRecord.id

variable {tables : Tables}

theorem resolved_iff : tables.Resolved ↔ tables.FollowedResolve ∧ tables.StrayResolve := by
  constructor
  · intro resolved
    have followed : tables.FollowedResolve :=
      { ruleType := resolved.ruleType
        placement := by
          intro uiItem placed
          obtain ⟨link, member, _, rfl⟩ := placed
          exact resolved.placementUiItem link member
        attachment := fun link member _ => resolved.attachmentRule link member }
    exact ⟨followed,
      { placement := resolved.placementContentItem
        attachmentUiItem := fun link member _ => resolved.attachmentUiItem link member
        attachmentRule := fun link member _ => resolved.attachmentRule link member }⟩
  · intro both
    obtain ⟨followed, stray⟩ := both
    refine
      { ruleType := followed.ruleType
        placementContentItem := stray.placement
        placementUiItem := ?_
        attachmentUiItem := ?_
        attachmentRule := ?_ }
    · intro link member
      exact followed.placement _ ⟨link, member, stray.placement link member, rfl⟩
    · intro link member
      by_cases placed : tables.Places link.uiItemId
      · exact followed.placement _ placed
      · exact stray.attachmentUiItem link member placed
    · intro link member
      by_cases placed : tables.Places link.uiItemId
      · exact followed.attachment link member placed
      · exact stray.attachmentRule link member placed

/-- The content items can be joined when the UI items placed in them exist, and so do the rules
attached to those. -/
theorem exists_joinContentItems_iff_places {rules : List Rule} :
    (∃ items, joinContentItems tables rules tables.contentItems = .ok items) ↔
      (∀ uiItem, tables.Places uiItem → uiItem ∈ tables.uiItems.map UiItemRecord.id) ∧
        ∀ attachment ∈ tables.attachments, tables.Places attachment.uiItemId →
          attachment.ruleId ∈ rules.map Rule.id := by
  simp only [exists_joinContentItems_iff, exists_placedUiItems_iff]
  constructor
  · intro followed
    have reached : ∀ uiItem, tables.Places uiItem → uiItem ∈ tables.uiItems.map UiItemRecord.id ∧
        ∀ attachment ∈ tables.attachments, attachment.uiItemId = uiItem →
          attachment.ruleId ∈ rules.map Rule.id := by
      intro uiItem placed
      obtain ⟨link, member, known, rfl⟩ := placed
      obtain ⟨record, recordMember, same⟩ := List.mem_map.mp known
      exact followed record recordMember link member same.symm
    exact ⟨fun uiItem placed => (reached uiItem placed).1,
      fun attachment member placed => (reached _ placed).2 attachment member rfl⟩
  · intro known record recordMember link member same
    obtain ⟨uiItems, attachments⟩ := known
    have placed : tables.Places link.uiItemId :=
      ⟨link, member, List.mem_map.mpr ⟨record, recordMember, same.symm⟩, rfl⟩
    refine ⟨uiItems _ placed, fun attachment attachmentMember onIt => ?_⟩
    exact attachments attachment attachmentMember (onIt ▸ placed)

/-- A join looks at the names of all rule types, the types of all rules and the rows that it
follows, and at nothing else. -/
theorem exists_join_iff :
    (∃ tree, tables.join = .ok tree) ↔ tables.NamesKnown ∧ tables.FollowedResolve := by
  constructor
  · intro loaded
    obtain ⟨tree, joined⟩ := loaded
    obtain ⟨types, rules, typesOk, rulesOk, itemsOk⟩ := join_ok_iff.mp joined
    have ⟨placement, attachment⟩ := exists_joinContentItems_iff_places.mp ⟨_, itemsOk⟩
    rw [← ids_joinRules rulesOk] at attachment
    refine ⟨exists_joinRuleTypes_iff.mp ⟨types, typesOk⟩, ?_, placement, attachment⟩
    rw [ids_joinRuleTypes typesOk]
    exact exists_joinRules_iff.mp ⟨rules, rulesOk⟩
  · intro checks
    obtain ⟨known, ruleType, placement, attachment⟩ := checks
    obtain ⟨types, typesOk⟩ := exists_joinRuleTypes_iff.mpr known
    rw [ids_joinRuleTypes typesOk] at ruleType
    obtain ⟨rules, rulesOk⟩ := exists_joinRules_iff.mpr ruleType
    rw [ids_joinRules rulesOk] at attachment
    obtain ⟨items, itemsOk⟩ := exists_joinContentItems_iff_places.mpr ⟨placement, attachment⟩
    exact ⟨⟨items⟩, join_ok_iff.mpr ⟨types, rules, typesOk, rulesOk, itemsOk⟩⟩

end Tables

namespace Catalog

variable {catalog : Catalog} {document : VersionDocument}

theorem addDocument_ok_iff {extended : Catalog} :
    catalog.addDocument document = .ok extended ↔ ∃ tree, document.tables.join = .ok tree ∧
      catalog.contains document.version = false ∧
        extended = catalog.insert document.version tree := by
  rw [addDocument]
  cases joined : document.tables.join with
  | error cause => simp
  | ok tree =>
      cases known : catalog.contains document.version with
      | true => simp
      | false => simp [eq_comm]

/-- Documents make a catalog when each of them joins and no version stands twice. -/
theorem exists_addDocuments_iff {documents : List VersionDocument} :
    (∃ extended, catalog.addDocuments documents = .ok extended) ↔
      (∀ document ∈ documents, ∃ tree, document.tables.join = .ok tree) ∧
        (∀ document ∈ documents, catalog.contains document.version = false) ∧
        (documents.map VersionDocument.version).Nodup := by
  -- For all catalogs at once, since a document's version is known to those behind it.
  induction documents generalizing catalog with
  | nil => simp [addDocuments]
  | cons document rest ih =>
      rw [addDocuments]
      simp only [Except.bind_eq_ok_iff, addDocument_ok_iff]
      constructor
      · intro added
        obtain ⟨extended, _, ⟨tree, joined, fresh, rfl⟩, restOk⟩ := added
        obtain ⟨restJoined, restFresh, distinct⟩ := ih.mp ⟨extended, restOk⟩
        simp only [SortedMap.contains_insert, Bool.or_eq_false_iff, decide_eq_false_iff_not]
          at restFresh
        refine ⟨List.forall_mem_cons.mpr ⟨⟨tree, joined⟩, restJoined⟩,
          List.forall_mem_cons.mpr ⟨fresh, fun other member => (restFresh other member).2⟩,
          List.nodup_cons.mpr ⟨fun repeated => ?_, distinct⟩⟩
        obtain ⟨other, member, same⟩ := List.mem_map.mp repeated
        exact (restFresh other member).1 same
      · intro checks
        obtain ⟨joined, fresh, distinct⟩ := checks
        obtain ⟨⟨tree, headJoined⟩, restJoined⟩ := List.forall_mem_cons.mp joined
        obtain ⟨headFresh, restFresh⟩ := List.forall_mem_cons.mp fresh
        obtain ⟨new, restDistinct⟩ := List.nodup_cons.mp distinct
        have restNew : ∀ other ∈ rest,
            (catalog.insert document.version tree).contains other.version = false := by
          intro other member
          have different : other.version ≠ document.version := fun same =>
            new (List.mem_map.mpr ⟨other, member, same⟩)
          simp [different, restFresh other member]
        obtain ⟨extended, restOk⟩ := ih.mpr ⟨restJoined, restNew, restDistinct⟩
        exact ⟨extended, _, ⟨tree, headJoined, headFresh, rfl⟩, restOk⟩

theorem exists_ofDocuments_iff {documents : List VersionDocument} :
    (∃ catalog, ofDocuments documents = .ok catalog) ↔
      (∀ document ∈ documents, document.tables.NamesKnown ∧ document.tables.FollowedResolve) ∧
        (documents.map VersionDocument.version).Nodup := by
  simp [ofDocuments, exists_addDocuments_iff, Tables.exists_join_iff]

end Catalog

namespace Source

variable {path : String} {bytes : ByteArray} {documents : List VersionDocument}

theorem fetch_file_eq
    (decoded : (Reader.list VersionDocument.reader).decode (Symbol.ofBytes bytes) = .ok documents) :
    (file path (.file bytes)).fetch = (Catalog.ofDocuments documents).mapError .invalidData := by
  simp only [fetch, isAvailable, content, Catalog.ofBytes, decoded, if_true]
  cases Catalog.ofDocuments documents with
  | error cause => rfl
  | ok catalog => rfl

/-- A file loads when its rule types are known, the references followed from its content items
resolve and no version stands twice.  A dangling reference that is followed is refused as invalid
data; of what has loaded, all references resolve just when the rows that are not followed do. -/
theorem fetch_file_checks_followed
    (decoded : (Reader.list VersionDocument.reader).decode (Symbol.ofBytes bytes) = .ok documents) :
    ((∃ catalog, (file path (.file bytes)).fetch = .ok catalog) ↔
        (∀ document ∈ documents,
          document.tables.NamesKnown ∧ document.tables.FollowedResolve) ∧
          (documents.map VersionDocument.version).Nodup) ∧
      (∀ document ∈ documents, ¬document.tables.FollowedResolve →
        ∃ cause, (file path (.file bytes)).fetch = .error (.invalidData cause)) ∧
      ((∃ catalog, (file path (.file bytes)).fetch = .ok catalog) →
        ∀ document ∈ documents, document.tables.Resolved ↔ document.tables.StrayResolve) := by
  have loads : (∃ catalog, (file path (.file bytes)).fetch = .ok catalog) ↔
      (∀ document ∈ documents, document.tables.NamesKnown ∧ document.tables.FollowedResolve) ∧
        (documents.map VersionDocument.version).Nodup := by
    rw [← Catalog.exists_ofDocuments_iff, fetch_file_eq decoded]
    cases Catalog.ofDocuments documents with
    | error cause => simp [Except.mapError]
    | ok catalog => simp [Except.mapError]
  refine ⟨loads, ?_, ?_⟩
  · intro document member dangling
    cases joined : Catalog.ofDocuments documents with
    | error cause =>
        refine ⟨cause, ?_⟩
        rw [fetch_file_eq decoded, joined]
        rfl
    | ok catalog =>
        have checks := (Catalog.exists_ofDocuments_iff.mp ⟨catalog, joined⟩).1 document member
        exact absurd checks.2 dangling
  · intro loaded document member
    have followed := ((loads.mp loaded).1 document member).2
    rw [Tables.resolved_iff]
    exact and_iff_right followed

/-- Places in its content item a UI item that does not exist. -/
def danglingPlacement : String :=
  "[[\"1\", [[[1, \"home\"]], [], [[1, 1, 2]]]]]"

/-- The document in that file. -/
def danglingDocument : VersionDocument where
  version := "1"
  tables :=
    { contentItems := [⟨1, "home"⟩]
      uiItems := []
      placements := [⟨1, 1, 2⟩]
      ruleTypes := []
      rules := []
      attachments := []
      lastUpdated := none
      lastUpdatedBy := none }

theorem danglingPlacement_refused :
    (Reader.list VersionDocument.reader).decode (Symbol.ofBytes danglingPlacement.toUTF8) =
        .ok [danglingDocument] ∧
      ∃ cause, (file "content.json" (.file danglingPlacement.toUTF8)).fetch =
        .error (.invalidData cause) := by
  have decoded :
      (Reader.list VersionDocument.reader).decode (Symbol.ofBytes danglingPlacement.toUTF8) =
        .ok [danglingDocument] := by
    rw [danglingPlacement, Symbol.ofBytes_toUTF8, Symbol.ofString_ofList]
    rfl
  have dangling : ¬danglingDocument.tables.FollowedResolve := by
    intro followed
    have missing := followed.placement 2 ⟨_, List.mem_cons_self, List.mem_cons_self, rfl⟩
    exact List.not_mem_nil missing
  obtain ⟨_, refused, _⟩ := fetch_file_checks_followed decoded
  exact ⟨decoded, refused danglingDocument List.mem_cons_self dangling⟩

/-- Attaches a rule to a UI item that does not exist, so it restricts nothing. -/
def strayAttachment : String :=
  "[[\"1\",[[[1,\"home\"]],[[1,\"news\",1]],[[1,1,1]],[[1,\"enable\"]],[[1,1,false]],[[1,2,1]]]]]"

/-- The document in that file. -/
def strayDocument : VersionDocument where
  version := "1"
  tables :=
    { contentItems := [⟨1, "home"⟩]
      uiItems := [⟨1, "news", 1⟩]
      placements := [⟨1, 1, 1⟩]
      ruleTypes := [⟨1, "enable"⟩]
      rules := [⟨1, 1, .bool false⟩]
      attachments := [⟨1, 2, 1⟩]
      lastUpdated := none
      lastUpdatedBy := none }

set_option maxRecDepth 2000 in
theorem strayAttachment_loads :
    (Reader.list VersionDocument.reader).decode (Symbol.ofBytes strayAttachment.toUTF8) =
        .ok [strayDocument] ∧
      (file "content.json" (.file strayAttachment.toUTF8)).fetch =
        .ok (SortedMap.empty.insert "1" ⟨[⟨1, "home", [⟨1, "news", 1, []⟩]⟩]⟩) ∧
      ¬strayDocument.tables.Resolved := by
  have decoded :
      (Reader.list VersionDocument.reader).decode (Symbol.ofBytes strayAttachment.toUTF8) =
        .ok [strayDocument] := by
    rw [strayAttachment, Symbol.ofBytes_toUTF8, Symbol.ofString_ofList]
    rfl
  refine ⟨decoded, ?_, ?_⟩
  · rw [fetch_file_eq decoded]
    rfl
  · intro resolved
    have known := resolved.attachmentUiItem _ List.mem_cons_self
    exact absurd known (by decide)

end Source

end Audience
