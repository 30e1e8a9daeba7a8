import Audience.CommandLine.Commands
import Audience.Content.Report
import Audience.Proofs.Catalogs
import Audience.Proofs.JoinedTree

namespace Audience

/-! Which rules of a content file are checked.

A report is made of the joined trees, so it looks at a rule once for each attachment that a join
follows.  A rule that is in use nowhere, or that a later one of its id replaces, is not in any tree
and may have a value that suits it badly.
-/

section

variable {α β : Type} {id : α → Int64} {records : List α} {wanted : Int64}

theorem IsLast.unique {first second : α} (firstLast : IsLast id records wanted first)
    (secondLast : IsLast id records wanted second) : first = second := by
  rw [← lastWithId?_eq_some_iff] at firstLast secondLast
  exact Option.some.inj (firstLast.symm.trans secondLast)

theorem exists_given_of_mem {gives : α → β → Prop} {rows : List α} {joined : List β} {row : α}
    (given : List.Forall₂ gives rows joined) (member : row ∈ rows) :
    ∃ record ∈ joined, gives row record := by
  induction given with
  | nil => cases member
  | @cons head record rows joined here _ ih =>
      rcases List.mem_cons.mp member with rfl | later
      · exact ⟨record, List.mem_cons_self, here⟩
      · obtain ⟨other, otherMember, gives⟩ := ih later
        exact ⟨other, List.mem_cons_of_mem _ otherMember, gives⟩

theorem exists_giving_of_mem {gives : α → β → Prop} {rows : List α} {joined : List β} {record : β}
    (given : List.Forall₂ gives rows joined) (member : record ∈ joined) :
    ∃ row ∈ rows, gives row record :=
  exists_given_of_mem given.flip member

end

namespace Tables

/-- The value of a rule suits the kind that the last type of its type id is named for. -/
def Suits (tables : Tables) (record : RuleRecord) : Prop :=
  ∃ type kind, IsLast RuleTypeRecord.id tables.ruleTypes record.ruleTypeId type ∧
    RuleKind.ofName? type.name = some kind ∧ kind.accepts record.value = true

/-- A rule is in use when it is the last with an id that is attached to a placed UI item. -/
def InUse (tables : Tables) (record : RuleRecord) : Prop :=
  ∃ link ∈ tables.attachments, tables.Places link.uiItemId ∧
    IsLast RuleRecord.id tables.rules link.ruleId record

variable {tables : Tables} {tree : ContentTree} {link : AttachmentRecord} {rule : Rule}

/-- A rule in a tree has come there by an attachment to a placed UI item. -/
theorem Joins.exists_attachment (joins : tables.Joins tree) (member : rule ∈ tree.rules) :
    ∃ link ∈ tables.attachments, tables.Places link.uiItemId ∧ tables.GivesRule link rule := by
  obtain ⟨item, itemMember, uiItem, uiItemMember, ruleMember⟩ := ContentTree.mem_rules_iff.mp member
  obtain ⟨record, recordMember, ⟨placed⟩⟩ := exists_giving_of_mem joins itemMember
  obtain ⟨placement, placementMember, ⟨_, attached⟩⟩ := exists_giving_of_mem placed uiItemMember
  obtain ⟨link, linkMember, gives⟩ := exists_giving_of_mem attached ruleMember
  simp only [List.mem_filter, decide_eq_true_eq] at placementMember linkMember
  refine ⟨link, linkMember.1, ⟨placement, placementMember.1, ?_, linkMember.2.symm⟩, gives⟩
  exact List.mem_map.mpr ⟨record, recordMember, placementMember.2.symm⟩

/-- Each attachment to a placed UI item brings its rule into the tree. -/
theorem Joins.exists_rule (joins : tables.Joins tree) (member : link ∈ tables.attachments)
    (placed : tables.Places link.uiItemId) : ∃ rule ∈ tree.rules, tables.GivesRule link rule := by
  obtain ⟨placement, placementMember, known, same⟩ := placed
  obtain ⟨record, recordMember, recordId⟩ := List.mem_map.mp known
  obtain ⟨item, itemMember, ⟨uiItems⟩⟩ := exists_given_of_mem joins recordMember
  obtain ⟨uiItem, uiItemMember, ⟨_, attached⟩⟩ := exists_given_of_mem uiItems
    (List.mem_filter.mpr ⟨placementMember, decide_eq_true recordId.symm⟩)
  obtain ⟨rule, ruleMember, gives⟩ := exists_given_of_mem attached
    (List.mem_filter.mpr ⟨member, decide_eq_true same.symm⟩)
  exact ⟨rule, ContentTree.mem_rules_iff.mpr ⟨_, itemMember, _, uiItemMember, ruleMember⟩, gives⟩

/-- The values in a tree are those of the rules in use. -/
theorem Joins.accepted_iff_suit (joins : tables.Joins tree) :
    (∀ rule ∈ tree.rules, rule.type.kind.accepts rule.value = true) ↔
      ∀ record, tables.InUse record → tables.Suits record := by
  constructor
  · intro accepted record inUse
    obtain ⟨link, member, placed, last⟩ := inUse
    obtain ⟨rule, ruleMember, gives⟩ := joins.exists_rule member placed
    have suits := accepted rule ruleMember
    cases gives with
    | @intro given type kind found typed named =>
        cases last.unique found
        exact ⟨type, kind, typed, named, suits⟩
  · intro suit rule member
    obtain ⟨link, linkMember, placed, gives⟩ := joins.exists_attachment member
    cases gives with
    | @intro record type kind found typed named =>
        obtain ⟨other, otherKind, otherTyped, otherNamed, accepted⟩ :=
          suit record ⟨link, linkMember, placed, found⟩
        cases otherTyped.unique typed
        cases otherNamed.symm.trans named
        exact accepted

end Tables

namespace Catalog

variable {catalog : Catalog} {documents : List VersionDocument}

/-- A report finds nothing exactly when every value in the trees suits its rule. -/
theorem report_isOk_iff : (Catalog.report catalog).isOk = true ↔
    ∀ version tree, catalog.get? version = some tree →
      ∀ rule ∈ tree.rules, rule.type.kind.accepts rule.value = true := by
  simp only [ContentReport.isOk, ContentReport.invalidCount, Catalog.report, beq_iff_eq,
    List.length_eq_zero_iff, List.flatMap_eq_nil_iff, List.forall_mem_map, ContentTree.report,
    List.filterMap_eq_nil_iff, Rule.invalid?_eq_none_iff, Prod.forall, SortedMap.mem_entries_iff]

/-- The report on documents looks at the rules that they use. -/
theorem report_ofDocuments_isOk_iff (made : ofDocuments documents = .ok catalog) :
    (Catalog.report catalog).isOk = true ↔ ∀ document ∈ documents,
      ∀ record, document.tables.InUse record → document.tables.Suits record := by
  have joined : ∀ document ∈ documents, ∃ tree, document.tables.join = .ok tree := by
    intro document member
    exact Tables.exists_join_iff.mpr ((exists_ofDocuments_iff.mp ⟨catalog, made⟩).1 document member)
  simp only [report_isOk_iff, get?_ofDocuments made]
  constructor
  · intro accepted document member
    obtain ⟨tree, treeOk⟩ := joined document member
    have joins := (Tables.join_ok_iff_joins.mp treeOk).2.2
    exact joins.accepted_iff_suit.mp (accepted _ tree ⟨document, member, rfl, treeOk⟩)
  · intro suit version tree stored
    obtain ⟨document, member, _, treeOk⟩ := stored
    have joins := (Tables.join_ok_iff_joins.mp treeOk).2.2
    exact joins.accepted_iff_suit.mpr (suit document member)

end Catalog

namespace CommandLine

/-- Once the content is loaded, the command succeeds when the report finds nothing. -/
theorem code_check {settings : Settings} {platform : String} {disk : String → Disk}
    {input : ByteArray} {catalog : Catalog}
    (loaded : (Source.file settings.storage.path (disk settings.storage.path)).fetch =
      .ok catalog) :
    ((perform settings platform .check).result disk input).code = 0 ↔
      (Catalog.report catalog).isOk = true := by
  have result : (perform settings platform .check).result disk input =
      { Outcome.printed (Catalog.report catalog).text with
        code := if (Catalog.report catalog).isOk then 0 else 1 } := by
    simp only [perform, check, Script.look, bind, Script.bind, Script.result, loaded]
    rfl
  rw [result]
  cases (Catalog.report catalog).isOk <;> simp

end CommandLine

namespace Source

variable {bytes : ByteArray} {documents : List VersionDocument} {catalog : Catalog}
  {settings : Settings} {disk : String → Disk}

/-- Of a file that loads, the report is good and the command succeeds exactly when the value of
each rule in use suits it.  So they tell of all rules of the file just when no rule that is not in
use has an unsuitable value that they miss. -/
theorem report_isOk_iff_inUse_suit (platform : String) (input : ByteArray)
    (decoded : (Reader.list VersionDocument.reader).decode (Symbol.ofBytes bytes) = .ok documents)
    (there : disk settings.storage.path = .file bytes)
    (loaded : (file settings.storage.path (.file bytes)).fetch = .ok catalog) :
    ((Catalog.report catalog).isOk = true ↔ ∀ document ∈ documents,
        ∀ record, document.tables.InUse record → document.tables.Suits record) ∧
      (((CommandLine.perform settings platform .check).result disk input).code = 0 ↔
        (Catalog.report catalog).isOk = true) ∧
      (((Catalog.report catalog).isOk = true ↔ ∀ document ∈ documents,
          ∀ record ∈ document.tables.rules, document.tables.Suits record) ↔
        ((Catalog.report catalog).isOk = true → ∀ document ∈ documents,
          ∀ record ∈ document.tables.rules, ¬document.tables.InUse record →
            document.tables.Suits record)) := by
  have reported := Catalog.report_ofDocuments_isOk_iff ((fetch_file_ok_iff decoded).mp loaded)
  refine ⟨reported, CommandLine.code_check (there ▸ loaded), ?_⟩
  constructor
  · intro all good document member record recordMember _
    exact all.mp good document member record recordMember
  · intro spareSuit
    constructor
    · intro good document member record recordMember
      by_cases inUse : document.tables.InUse record
      · exact reported.mp good document member record inUse
      · exact spareSuit good document member record recordMember inUse
    · intro all
      refine reported.mpr fun document member record inUse => ?_
      obtain ⟨link, _, _, before, after, parts, _⟩ := inUse
      exact all document member record (by simp [parts])

/-- A document with one UI item, one privacy rule whose value is a text, and the given
attachments. -/
def textualPrivacy (attachments : List AttachmentRecord) : VersionDocument where
  version := "1"
  tables :=
    { contentItems := [⟨1, "home"⟩]
      uiItems := [⟨1, "news", 1⟩]
      placements := [⟨1, 1, 1⟩]
      ruleTypes := [⟨1, "privacy"⟩]
      rules := [⟨1, 1, .text "high"⟩]
      attachments
      lastUpdated := none
      lastUpdatedBy := none }

theorem textualPrivacy_unsuitable (attachments : List AttachmentRecord) :
    ¬(textualPrivacy attachments).tables.Suits ⟨1, 1, .text "high"⟩ := by
  intro suits
  obtain ⟨type, kind, typed, named, accepted⟩ := suits
  rw [← lastWithId?_eq_some_iff] at typed
  cases typed
  cases named
  cases accepted

/-- The rule is attached to the UI item. -/
def attachedRule : String :=
  "[[\"1\",[[[1,\"home\"]],[[1,\"news\",1]],[[1,1,1]],[[1,\"privacy\"]],[[1,1,\"high\"]],[[1,1,1]]]]]"

/-- The catalog of that file. -/
def attachedCatalog : Catalog :=
  SortedMap.empty.insert "1"
    ⟨[⟨1, "home", [⟨1, "news", 1, [⟨1, ⟨1, .privacy⟩, .text "high"⟩]⟩]⟩]⟩

set_option maxRecDepth 2000 in
theorem attachedRule_found :
    (Reader.list VersionDocument.reader).decode (Symbol.ofBytes attachedRule.toUTF8) =
        .ok [textualPrivacy [⟨1, 1, 1⟩]] ∧
      (file Settings.default.storage.path (.file attachedRule.toUTF8)).fetch =
        .ok attachedCatalog ∧
      (Catalog.report attachedCatalog).isOk = false ∧
      ((CommandLine.perform .default "native" .check).result
        (fun _ => .file attachedRule.toUTF8) .empty).code ≠ 0 := by
  have decoded :
      (Reader.list VersionDocument.reader).decode (Symbol.ofBytes attachedRule.toUTF8) =
        .ok [textualPrivacy [⟨1, 1, 1⟩]] := by
    rw [attachedRule, Symbol.ofBytes_toUTF8, Symbol.ofString_ofList]
    rfl
  have loaded : (file Settings.default.storage.path (.file attachedRule.toUTF8)).fetch =
      .ok attachedCatalog := by
    rw [fetch_file_eq decoded]
    rfl
  let disk : String → Disk := fun _ => .file attachedRule.toUTF8
  have there : disk Settings.default.storage.path = .file attachedRule.toUTF8 := rfl
  obtain ⟨reported, coded, _⟩ :=
    report_isOk_iff_inUse_suit "native" .empty decoded there loaded
  have inUse : (textualPrivacy [⟨1, 1, 1⟩]).tables.InUse ⟨1, 1, .text "high"⟩ := by
    refine ⟨⟨1, 1, 1⟩, List.mem_cons_self, ?_, ?_⟩
    · exact ⟨⟨1, 1, 1⟩, List.mem_cons_self, List.mem_cons_self, rfl⟩
    · exact lastWithId?_eq_some_iff.mp rfl
  have bad : ¬(Catalog.report attachedCatalog).isOk = true := fun good =>
    textualPrivacy_unsuitable _ (reported.mp good _ List.mem_cons_self _ inUse)
  exact ⟨decoded, loaded, Bool.eq_false_iff.mpr bad, fun succeeded => bad (coded.mp succeeded)⟩

/-- The rule is attached to nothing. -/
def spareRule : String :=
  "[[\"1\",[[[1,\"home\"]],[[1,\"news\",1]],[[1,1,1]],[[1,\"privacy\"]],[[1,1,\"high\"]],[]]]]"

theorem spareRule_missed :
    (Reader.list VersionDocument.reader).decode (Symbol.ofBytes spareRule.toUTF8) =
        .ok [textualPrivacy []] ∧
      (∃ catalog, (file Settings.default.storage.path (.file spareRule.toUTF8)).fetch =
          .ok catalog ∧ (Catalog.report catalog).isOk = true) ∧
      ((CommandLine.perform .default "native" .check).result
        (fun _ => .file spareRule.toUTF8) .empty).code = 0 ∧
      ∃ record ∈ (textualPrivacy []).tables.rules, ¬(textualPrivacy []).tables.Suits record := by
  have decoded :
      (Reader.list VersionDocument.reader).decode (Symbol.ofBytes spareRule.toUTF8) =
        .ok [textualPrivacy []] := by
    rw [spareRule, Symbol.ofBytes_toUTF8, Symbol.ofString_ofList]
    rfl
  have loaded : (file Settings.default.storage.path (.file spareRule.toUTF8)).fetch =
      .ok (SortedMap.empty.insert "1" ⟨[⟨1, "home", [⟨1, "news", 1, []⟩]⟩]⟩) := by
    rw [fetch_file_eq decoded]
    rfl
  refine ⟨decoded, ⟨_, loaded, rfl⟩, (CommandLine.code_check loaded).mpr rfl, ?_⟩
  exact ⟨_, List.mem_cons_self, textualPrivacy_unsuitable []⟩

end Source

end Audience
