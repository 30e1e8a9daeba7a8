import Audience.Proofs.References
import Audience.Proofs.SortedMaps

namespace Audience

/-! Which catalog the documents of a file make.

Documents are added one after the other, and each is joined from its own tables alone.  When all of
them can be added, the catalog has one entry for each and does not depend on their order; otherwise
there is no catalog, and the first document that cannot be added is reported.
-/

namespace VersionDocument

/-- A document gives one entry: under its version stands the join of its own tables. -/
def Gives (document : VersionDocument) (entry : String × ContentTree) : Prop :=
  entry.1 = document.version ∧ document.tables.join = .ok entry.2

/-- All documents join, and no version stands twice. -/
structure Admissible (documents : List VersionDocument) : Prop where
  join : ∀ document ∈ documents, ∃ tree, document.tables.join = .ok tree
  distinct : (documents.map version).Nodup

/-- Why a document cannot be added to the documents before it. -/
inductive Refused (before : List VersionDocument) (document : VersionDocument) :
    CatalogError → Prop where
  | unjoined {cause : JoinError} (failed : document.tables.join = .error cause) :
      Refused before document (.unjoined document.version cause)
  | repeated {tree : ContentTree} (joined : document.tables.join = .ok tree)
      (known : document.version ∈ before.map version) :
      Refused before document (.duplicateVersion document.version)

end VersionDocument

namespace Catalog

open VersionDocument

variable {catalog extended : Catalog} {documents others : List VersionDocument}
  {document : VersionDocument} {version : String} {tree : ContentTree} {cause : CatalogError}

/-- Each document brings the join of its own tables under its version. -/
theorem get?_addDocuments (added : catalog.addDocuments documents = .ok extended) :
    extended.get? version = some tree ↔ catalog.get? version = some tree ∨
      ∃ document ∈ documents, document.version = version ∧ document.tables.join = .ok tree := by
  induction documents generalizing catalog with
  | nil =>
      cases added
      simp
  | cons document rest ih =>
      obtain ⟨next, nextOk, restOk⟩ := Except.bind_eq_ok_iff.mp added
      obtain ⟨joinedTree, joined, fresh, rfl⟩ := addDocument_ok_iff.mp nextOk
      have unknown : catalog.get? document.version = none := by
        simpa [SortedMap.contains] using fresh
      rw [ih restOk, SortedMap.get?_insert]
      by_cases same : version = document.version
      · simp [same, unknown, joined]
      · simp [same, Ne.symm same]

theorem get?_ofDocuments (made : ofDocuments documents = .ok catalog) :
    catalog.get? version = some tree ↔
      ∃ document ∈ documents, document.version = version ∧ document.tables.join = .ok tree := by
  rw [get?_addDocuments made]
  simp [SortedMap.get?, SortedMap.empty, Sorted.lookup]

theorem exists_ofDocuments_iff_admissible :
    (∃ catalog, ofDocuments documents = .ok catalog) ↔ Admissible documents := by
  rw [ofDocuments, exists_addDocuments_iff]
  constructor
  · intro added
    exact ⟨added.1, added.2.2⟩
  · intro admissible
    exact ⟨admissible.join, fun _ _ => SortedMap.contains_empty _, admissible.distinct⟩

theorem perm_entries_addDocuments (added : catalog.addDocuments documents = .ok extended) :
    ∃ given, List.Forall₂ Gives documents given ∧
      extended.entries.Perm (given ++ catalog.entries) := by
  induction documents generalizing catalog with
  | nil =>
      cases added
      exact ⟨[], .nil, .refl _⟩
  | cons document rest ih =>
      obtain ⟨next, nextOk, restOk⟩ := Except.bind_eq_ok_iff.mp added
      obtain ⟨tree, joined, fresh, rfl⟩ := addDocument_ok_iff.mp nextOk
      obtain ⟨given, givenAll, permutation⟩ := ih restOk
      refine ⟨(document.version, tree) :: given, .cons ⟨rfl, joined⟩ givenAll, ?_⟩
      have inserted := SortedMap.perm_entries_insert tree fresh
      exact (permutation.trans (inserted.append_left given)).trans List.perm_middle

theorem addDocument_error_iff : catalog.addDocument document = .error cause ↔
    (∃ problem, document.tables.join = .error problem ∧
      cause = .unjoined document.version problem) ∨
    ∃ tree, document.tables.join = .ok tree ∧ catalog.contains document.version = true ∧
      cause = .duplicateVersion document.version := by
  rw [addDocument]
  cases joined : document.tables.join with
  | error problem => simp [@eq_comm _ cause]
  | ok tree => cases known : catalog.contains document.version <;> simp [@eq_comm _ cause]

/-- An error comes from one document, behind others that could be added. -/
theorem addDocuments_error_iff : catalog.addDocuments documents = .error cause ↔
    ∃ before document after extended, documents = before ++ document :: after ∧
      catalog.addDocuments before = .ok extended ∧
        extended.addDocument document = .error cause := by
  induction documents generalizing catalog with
  | nil => simp [addDocuments]
  | cons head rest ih =>
      rw [addDocuments, Except.bind_eq_error_iff]
      simp only [ih]
      constructor
      · intro failed
        rcases failed with refused | later
        · exact ⟨[], head, rest, catalog, rfl, rfl, refused⟩
        · obtain ⟨next, added, before, document, after, extended, rfl, made, refused⟩ := later
          exact ⟨head :: before, document, after, extended, rfl,
            Except.bind_eq_ok_iff.mpr ⟨next, added, made⟩, refused⟩
      · intro reported
        obtain ⟨before, document, after, extended, parts, made, refused⟩ := reported
        cases before with
        | nil =>
            cases made
            cases parts
            exact .inl refused
        | cons first others =>
            cases parts
            obtain ⟨next, added, madeOthers⟩ := Except.bind_eq_ok_iff.mp made
            exact .inr ⟨next, added, others, document, after, extended, rfl, madeOthers, refused⟩

/-- Behind documents that make a catalog, their versions are the ones that are known. -/
theorem contains_ofDocuments_iff (made : ofDocuments documents = .ok catalog) :
    catalog.contains version = true ↔ version ∈ documents.map VersionDocument.version := by
  have admissible := exists_ofDocuments_iff_admissible.mp ⟨catalog, made⟩
  rw [SortedMap.contains, Option.isSome_iff_exists]
  simp only [get?_ofDocuments made, List.mem_map]
  constructor
  · intro known
    obtain ⟨_, document, member, named, _⟩ := known
    exact ⟨document, member, named⟩
  · intro named
    obtain ⟨document, member, same⟩ := named
    obtain ⟨tree, joined⟩ := admissible.join document member
    exact ⟨tree, document, member, same, joined⟩

theorem ofDocuments_error_iff : ofDocuments documents = .error cause ↔
    ∃ before document after, documents = before ++ document :: after ∧ Admissible before ∧
      Refused before document cause := by
  rw [ofDocuments, addDocuments_error_iff]
  constructor
  · intro reported
    obtain ⟨before, document, after, extended, parts, made, refused⟩ := reported
    refine ⟨before, document, after, parts,
      exists_ofDocuments_iff_admissible.mp ⟨extended, made⟩, ?_⟩
    rcases addDocument_error_iff.mp refused with ⟨problem, failed, rfl⟩ | ⟨tree, joined, known, rfl⟩
    · exact .unjoined failed
    · exact .repeated joined ((contains_ofDocuments_iff made).mp known)
  · intro reported
    obtain ⟨before, document, after, parts, admissible, refused⟩ := reported
    obtain ⟨extended, made⟩ := exists_ofDocuments_iff_admissible.mpr admissible
    refine ⟨before, document, after, extended, parts, made, addDocument_error_iff.mpr ?_⟩
    cases refused with
    | unjoined failed => exact .inl ⟨_, failed, rfl⟩
    | repeated joined known =>
        exact .inr ⟨_, joined, (contains_ofDocuments_iff made).mpr known, rfl⟩

theorem ofDocuments_of_perm (permutation : documents.Perm others)
    (made : ofDocuments documents = .ok catalog) : ofDocuments others = .ok catalog := by
  obtain ⟨join, distinct⟩ := exists_ofDocuments_iff_admissible.mp ⟨catalog, made⟩
  have admissible : Admissible others :=
    { join := fun document member => join document (permutation.mem_iff.mpr member)
      distinct := (permutation.map VersionDocument.version).nodup_iff.mp distinct }
  obtain ⟨reordered, madeOthers⟩ := exists_ofDocuments_iff_admissible.mpr admissible
  have same : reordered = catalog := by
    apply SortedMap.eq_of_get?
    intro version
    apply Option.ext
    intro tree
    simp only [get?_ofDocuments madeOthers, get?_ofDocuments made, permutation.mem_iff]
  rw [madeOthers, same]

end Catalog

namespace Source

open VersionDocument

variable {path : String} {bytes : ByteArray} {documents : List VersionDocument} {catalog : Catalog}

theorem fetch_file_ok_iff
    (decoded : (Reader.list VersionDocument.reader).decode (Symbol.ofBytes bytes) =
      .ok documents) :
    (file path (.file bytes)).fetch = .ok catalog ↔
      Catalog.ofDocuments documents = .ok catalog := by
  rw [fetch_file_eq decoded]
  cases Catalog.ofDocuments documents <;> simp [Except.mapError]

theorem fetch_file_error_iff {error : LoadError}
    (decoded : (Reader.list VersionDocument.reader).decode (Symbol.ofBytes bytes) =
      .ok documents) :
    (file path (.file bytes)).fetch = .error error ↔
      ∃ cause, error = .invalidData cause ∧ Catalog.ofDocuments documents = .error cause := by
  rw [fetch_file_eq decoded]
  cases Catalog.ofDocuments documents <;> simp [Except.mapError, eq_comm]

/-- A file loads when all its documents join and no version stands twice.  Then each document has
one entry, made of its own tables alone, and documents in another order load as the same catalog.
Otherwise nothing is loaded, and the first document is reported that does not join or has the
version of one before it. -/
theorem fetch_file_all_or_first_refused (path : String)
    (decoded : (Reader.list VersionDocument.reader).decode (Symbol.ofBytes bytes) =
      .ok documents) :
    ((∃ catalog, (file path (.file bytes)).fetch = .ok catalog) ↔ Admissible documents) ∧
      (∀ catalog, (file path (.file bytes)).fetch = .ok catalog →
        ∃ given, List.Forall₂ Gives documents given ∧ catalog.entries.Perm given) ∧
      (∀ catalog otherPath otherBytes others,
        (Reader.list VersionDocument.reader).decode (Symbol.ofBytes otherBytes) = .ok others →
          documents.Perm others → (file path (.file bytes)).fetch = .ok catalog →
            (file otherPath (.file otherBytes)).fetch = .ok catalog) ∧
      ∀ error, (file path (.file bytes)).fetch = .error error ↔
        ∃ before document after cause, documents = before ++ document :: after ∧
          Admissible before ∧ Refused before document cause ∧ error = .invalidData cause := by
  refine ⟨?_, ?_, ?_, ?_⟩
  · simp only [fetch_file_ok_iff decoded, Catalog.exists_ofDocuments_iff_admissible]
  · intro catalog loaded
    have made := (fetch_file_ok_iff decoded).mp loaded
    obtain ⟨given, givenAll, permutation⟩ := Catalog.perm_entries_addDocuments made
    exact ⟨given, givenAll, by simpa [SortedMap.empty] using permutation⟩
  · intro catalog otherPath otherBytes others otherDecoded permutation loaded
    have made := (fetch_file_ok_iff decoded).mp loaded
    exact (fetch_file_ok_iff otherDecoded).mpr (Catalog.ofDocuments_of_perm permutation made)
  · intro error
    rw [fetch_file_error_iff decoded]
    constructor
    · intro failed
      obtain ⟨cause, rfl, unmade⟩ := failed
      obtain ⟨before, document, after, parts, admissible, refused⟩ :=
        Catalog.ofDocuments_error_iff.mp unmade
      exact ⟨before, document, after, cause, parts, admissible, refused, rfl⟩
    · intro reported
      obtain ⟨before, document, after, cause, parts, admissible, refused, rfl⟩ := reported
      exact ⟨cause, rfl,
        Catalog.ofDocuments_error_iff.mpr ⟨before, document, after, parts, admissible, refused⟩⟩

/-- A document of content items without anything in them. -/
def bareDocument (version : String) (contentItems : List ContentItemRecord)
    (ruleTypes : List RuleTypeRecord) : VersionDocument where
  version := version
  tables :=
    { contentItems
      uiItems := []
      placements := []
      ruleTypes
      rules := []
      attachments := []
      lastUpdated := none
      lastUpdatedBy := none }

def homeThenBrowse : String :=
  "[[\"2\",[[[1,\"home\"]]]],[\"1\",[[[1,\"browse\"]]]]]"

def browseThenHome : String :=
  "[[\"1\",[[[1,\"browse\"]]]],[\"2\",[[[1,\"home\"]]]]]"

/-- The last document does not join, and the one before it has the version of the first. -/
def homeRepeated : String :=
  "[[\"2\",[[[1,\"home\"]]]],[\"1\",[]],[\"2\",[]],[\"3\",[[],[],[],[[1,\"geo\"]]]]]"

theorem homeRepeated_refused :
    (∃ catalog, (file "a.json" (.file homeThenBrowse.toUTF8)).fetch = .ok catalog ∧
      (file "b.json" (.file browseThenHome.toUTF8)).fetch = .ok catalog) ∧
    (file "a.json" (.file homeRepeated.toUTF8)).fetch =
      .error (.invalidData (.duplicateVersion "2")) := by
  let home := bareDocument "2" [⟨1, "home"⟩] []
  let browse := bareDocument "1" [⟨1, "browse"⟩] []
  have decoded : (Reader.list VersionDocument.reader).decode
      (Symbol.ofBytes homeThenBrowse.toUTF8) = .ok [home, browse] := by
    rw [homeThenBrowse, Symbol.ofBytes_toUTF8, Symbol.ofString_ofList]
    rfl
  have swapped : (Reader.list VersionDocument.reader).decode
      (Symbol.ofBytes browseThenHome.toUTF8) = .ok [browse, home] := by
    rw [browseThenHome, Symbol.ofBytes_toUTF8, Symbol.ofString_ofList]
    rfl
  have repeated : (Reader.list VersionDocument.reader).decode
      (Symbol.ofBytes homeRepeated.toUTF8) =
        .ok [home, bareDocument "1" [] [], bareDocument "2" [] [],
          bareDocument "3" [] [⟨1, "geo"⟩]] := by
    rw [homeRepeated, Symbol.ofBytes_toUTF8, Symbol.ofString_ofList]
    rfl
  obtain ⟨loads, _, reordered, _⟩ := fetch_file_all_or_first_refused "a.json" decoded
  obtain ⟨_, _, _, refuses⟩ := fetch_file_all_or_first_refused "a.json" repeated
  constructor
  · obtain ⟨catalog, loaded⟩ := loads.mpr
      { join := List.forall_mem_cons.mpr ⟨⟨_, rfl⟩, List.forall_mem_singleton.mpr ⟨_, rfl⟩⟩
        distinct := by decide }
    exact ⟨catalog, loaded, reordered catalog _ _ _ swapped (.swap ..) loaded⟩
  · refine (refuses _).mpr ⟨[home, bareDocument "1" [] []], bareDocument "2" [] [], _, _, rfl, ?_,
      .repeated rfl (by decide), rfl⟩
    exact
      { join := List.forall_mem_cons.mpr ⟨⟨_, rfl⟩, List.forall_mem_singleton.mpr ⟨_, rfl⟩⟩
        distinct := by decide }

end Source

end Audience
