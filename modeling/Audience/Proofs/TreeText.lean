import Audience.Content.Tree
import Audience.Proofs.Json.Numerals
import Audience.Proofs.Json.Written

namespace Audience

/-! A content tree that is written is read back as the same tree.

Rule values may be nested as deep as a text allows, so what is assumed of the depth is the height
of the whole document and each part is read as deep as it stands in it.  Numbers are read by a
quick method that is not exact for all of them, so of the numbers in a tree it has to be known that
they are read as they were.
-/

namespace Value

mutual

/-- The numbers in a value, at every depth. -/
def numbers : Value → List Number
  | number value => [value]
  | list items => itemsNumbers items
  | map entries => entriesNumbers entries
  | _ => []

def itemsNumbers : List Value → List Number
  | [] => []
  | item :: rest => numbers item ++ itemsNumbers rest

def entriesNumbers : List (String × Value) → List Number
  | [] => []
  | (_, value) :: rest => numbers value ++ entriesNumbers rest

end

theorem orderedEntries_iff {entries : List (String × Value)} :
    OrderedEntries entries ↔ ∀ entry ∈ entries, entry.2.Ordered := by
  induction entries with
  | nil => simp [OrderedEntries]
  | cons entry rest ih =>
      obtain ⟨key, value⟩ := entry
      rw [OrderedEntries, ih, List.forall_mem_cons]

theorem ordered_settle {entries : List (String × Value)} (ordered : OrderedEntries entries) :
    (map (settle entries)).Ordered := by
  rw [orderedEntries_iff] at ordered
  have settled (entries before : List (String × Value)) (ascending : Sorted.Ascending before)
      (earlier : ∀ entry ∈ before, entry.2.Ordered) (each : ∀ entry ∈ entries, entry.2.Ordered) :
      (map (entries.foldl (fun done entry => Sorted.insertKey entry.1 entry.2 done)
        before)).Ordered := by
    -- The entries settled so far ascend, and each of them was there before.
    induction entries generalizing before with
    | nil => exact ⟨ascending, orderedEntries_iff.mpr earlier⟩
    | cons entry rest ih =>
        obtain ⟨first, others⟩ := List.forall_mem_cons.mp each
        refine ih _ (ascending.insertKey entry.1 entry.2) (fun found member => ?_) others
        rcases Sorted.mem_insertKey member with rfl | old
        · exact first
        · exact earlier found old
  exact settled entries [] List.Pairwise.nil nofun ordered

mutual

/-- The values that are read have ascending keys. -/
theorem ordered_of_read : (node : Node) → ∀ {reading : Reading} {value : Value},
    read reading node = .ok value → value.Ordered
  | .null, _, _, done | .bool _, _, _, done | .whole _, _, _, done | .real _, _, _, done
  | .string _, _, _, done => by
      cases done
      trivial
  | .unreadable, _, _, done | .fault, _, _, done => by cases done
  | .array nodes closed, _, _, done => by
      simp only [read, Except.bind_eq_ok_iff] at done
      obtain ⟨inner, _, items, itemsOk, done⟩ := done
      cases closed with
      | false => cases done
      | true =>
          cases done
          exact orderedItems_of_readItems nodes itemsOk
  | .object nodes closed, _, _, done => by
      simp only [read, Except.bind_eq_ok_iff] at done
      obtain ⟨inner, _, entries, entriesOk, done⟩ := done
      cases closed with
      | false => cases done
      | true =>
          cases done
          exact ordered_settle (orderedEntries_of_readEntries nodes entriesOk)

theorem orderedItems_of_readItems : (nodes : List Node) → ∀ {reading : Reading}
    {values : List Value}, readItems reading nodes = .ok values → OrderedItems values
  | [], _, _, done => by
      cases done
      trivial
  | node :: rest, _, _, done => by
      simp only [readItems, Except.bind_eq_ok_iff] at done
      obtain ⟨value, first, items, others, same⟩ := done
      cases same
      exact ⟨ordered_of_read node first, orderedItems_of_readItems rest others⟩

theorem orderedEntries_of_readEntries : (nodes : List (Option String × Node)) →
    ∀ {reading : Reading} {values : List (String × Value)},
      readEntries reading nodes = .ok values → OrderedEntries values
  | [], _, _, done => by
      cases done
      trivial
  | (none, _) :: _, _, _, done => by cases done
  | (some key, node) :: rest, _, _, done => by
      simp only [readEntries, Except.bind_eq_ok_iff] at done
      obtain ⟨value, first, entries, others, same⟩ := done
      cases same
      exact ⟨ordered_of_read node first, orderedEntries_of_readEntries rest others⟩

end

theorem settle_of_ascending {entries : List (String × Value)}
    (ascending : Sorted.Ascending entries) : settle entries = entries := by
  have behindNone : Sorted.Ascending ([] ++ entries) := ascending
  exact Sorted.foldl_insertKey behindNone

mutual

theorem read_toJson : (value : Value) → value.Ordered → ∀ {reading : Reading},
    reading.Admits value.toJson.height → read reading (.ofJson value.toJson) = .ok value
  | null, _, _, _ => rfl
  | bool _, _, _, _ => rfl
  | number _, _, _, _ => rfl
  | text _, _, _, _ => rfl
  | list items, ordered, _, admits => by
      obtain ⟨inner, entered, admitted⟩ := admits.enter
      have reads := readItems_toJson items ordered admitted
      simp [toJson, Node.ofJson, read, entered, reads, bind, Except.bind]
  | map entries, ordered, _, admits => by
      obtain ⟨inner, entered, admitted⟩ := admits.enter
      have reads := readEntries_toJson entries ordered.2 admitted
      simp [toJson, Node.ofJson, read, entered, reads, settle_of_ascending ordered.1, bind,
        Except.bind]

theorem readItems_toJson : (items : List Value) → OrderedItems items → ∀ {reading : Reading},
    reading.Admits (Json.itemsHeight (itemsToJson items)) →
      readItems reading (Node.ofItems (itemsToJson items)) = .ok items
  | [], _, _, _ => rfl
  | item :: rest, ordered, _, admits => by
      have first := read_toJson item ordered.1 (admits.of_le (Nat.le_max_left _ _))
      have others := readItems_toJson rest ordered.2 (admits.of_le (Nat.le_max_right _ _))
      simp [itemsToJson, Node.ofItems, readItems, first, others, bind, Except.bind]

theorem readEntries_toJson : (entries : List (String × Value)) → OrderedEntries entries →
    ∀ {reading : Reading}, reading.Admits (Json.fieldsHeight (entriesToJson entries)) →
      readEntries reading (Node.ofFields (entriesToJson entries)) = .ok entries
  | [], _, _, _ => rfl
  | (key, value) :: rest, ordered, _, admits => by
      have first := read_toJson value ordered.1 (admits.of_le (Nat.le_max_left _ _))
      have others := readEntries_toJson rest ordered.2 (admits.of_le (Nat.le_max_right _ _))
      simp [entriesToJson, Node.ofFields, readEntries, first, others, bind, Except.bind]

end

mutual

theorem legible_toJson : (value : Value) → (∀ x ∈ value.numbers, x.IsScanned) →
    value.toJson.Legible
  | null, _ => trivial
  | bool _, _ => trivial
  | number value, scanned => scanned value List.mem_cons_self
  | text _, _ => trivial
  | list items, scanned => legible_itemsToJson items scanned
  | map entries, scanned => legible_entriesToJson entries scanned

theorem legible_itemsToJson : (items : List Value) → (∀ x ∈ itemsNumbers items, x.IsScanned) →
    Json.ItemsLegible (itemsToJson items)
  | [], _ => trivial
  | item :: rest, scanned => by
      obtain ⟨first, others⟩ := List.forall_mem_append.mp scanned
      exact ⟨legible_toJson item first, legible_itemsToJson rest others⟩

theorem legible_entriesToJson : (entries : List (String × Value)) →
    (∀ x ∈ entriesNumbers entries, x.IsScanned) → Json.FieldsLegible (entriesToJson entries)
  | [], _ => trivial
  | (_, value) :: rest, scanned => by
      obtain ⟨first, others⟩ := List.forall_mem_append.mp scanned
      exact ⟨legible_toJson value first, legible_entriesToJson rest others⟩

end

end Value

section

variable {reading : Reading}

theorem RuleType.reader_toJson (type : RuleType) (admits : reading.Admits type.toJson.height) :
    reader reading (.ofJson type.toJson) = .ok type := by
  obtain ⟨inner, entered, -⟩ := admits.enter_object
  have takesId := Reader.int64_ofJson inner type.id
  have takesName : Reader.string inner (.ofJson (.string type.name)) = .ok type.name := rfl
  have values : Record.read [.required "id" .int64 [], .required "name" .string []] reading
      (.ofJson type.toJson) = .ok (type.id, type.name, ()) := by
    refine Record.read_ofJson (by decide) entered _ ?_
    simp [Record.TakesAll, Field.takes_required takesId, Field.takes_required takesName]
  rw [reader, values]
  simp [name, RuleKind.ofName?_name, bind, Except.bind]

theorem Rule.reader_toJson (rule : Rule) (ordered : rule.value.Ordered)
    (admits : reading.Admits rule.toJson.height) :
    reader reading (.ofJson rule.toJson) = .ok rule := by
  obtain ⟨inner, entered, admitted⟩ := admits.enter_object
  have takesId := Reader.int64_ofJson inner rule.id
  have takesType := rule.type.reader_toJson (admitted ("rule_type", rule.type.toJson) (by simp))
  have takesValue : Value.reader inner (.ofJson rule.value.toJson) = .ok rule.value :=
    rule.value.read_toJson ordered (admitted ("value", rule.value.toJson) (by simp))
  refine Record.reader_ofJson (by decide) entered (rule.id, rule.type, rule.value, ()) rfl ?_
  simp [Record.TakesAll, Field.takes_required takesId, Field.takes_required takesType,
    Field.takes_defaulted takesValue]

theorem UiItem.reader_toJson (item : UiItem) (ordered : ∀ rule ∈ item.rules, rule.value.Ordered)
    (admits : reading.Admits item.toJson.height) :
    reader reading (.ofJson item.toJson) = .ok item := by
  obtain ⟨inner, entered, admitted⟩ := admits.enter_object
  have takesId := Reader.int64_ofJson inner item.id
  have takesName : Reader.string inner (.ofJson (.string item.name)) = .ok item.name := rfl
  have takesOrder := Reader.int64_ofJson inner item.order
  refine Record.reader_ofJson (by decide) entered
    (item.id, item.name, item.order, item.rules, ()) rfl ?_
  -- No rules are left out of the text, which stands for none.
  by_cases none : item.rules.isEmpty
  · have leftOut : item.rules = [] := List.isEmpty_iff.mp none
    have takesRules : (Field.defaulted "rules" (.list Rule.reader) [] []).Takes inner []
        item.rules := .leftOut (by rw [leftOut]; rfl)
    simp [Record.TakesAll, Field.takes_required takesId, Field.takes_required takesName,
      Field.takes_required takesOrder, none, takesRules]
  · rw [if_neg none] at admitted
    have takesRules : Reader.list Rule.reader inner
        (.ofJson (.array (item.rules.map Rule.toJson))) = .ok item.rules :=
      Reader.list_ofJson (admitted ("rules", .array (item.rules.map Rule.toJson)) (by simp))
        fun rule member _ => rule.reader_toJson (ordered rule member)
    simp [Record.TakesAll, Field.takes_required takesId, Field.takes_required takesName,
      Field.takes_required takesOrder, none, Field.takes_defaulted takesRules]

theorem ContentItem.reader_toJson (item : ContentItem)
    (ordered : ∀ uiItem ∈ item.uiItems, ∀ rule ∈ uiItem.rules, rule.value.Ordered)
    (admits : reading.Admits item.toJson.height) :
    reader reading (.ofJson item.toJson) = .ok item := by
  obtain ⟨inner, entered, admitted⟩ := admits.enter_object
  have takesId := Reader.int64_ofJson inner item.id
  have takesName : Reader.string inner (.ofJson (.string item.name)) = .ok item.name := rfl
  have takesUiItems : Reader.list UiItem.reader inner
      (.ofJson (.array (item.uiItems.map UiItem.toJson))) = .ok item.uiItems :=
    Reader.list_ofJson (admitted ("ui-items", .array (item.uiItems.map UiItem.toJson)) (by simp))
      fun uiItem member _ => uiItem.reader_toJson (ordered uiItem member)
  refine Record.reader_ofJson (by decide) entered (item.id, item.name, item.uiItems, ()) rfl ?_
  simp [Record.TakesAll, Field.takes_required takesId, Field.takes_required takesName,
    Field.takes_defaulted takesUiItems]

theorem ContentTree.reader_toJson (tree : ContentTree)
    (ordered : ∀ rule ∈ tree.rules, rule.value.Ordered)
    (admits : reading.Admits tree.toJson.height) :
    reader reading (.ofJson tree.toJson) = .ok tree := by
  obtain ⟨inner, entered, admitted⟩ := admits.enter_object
  have takesItems : Reader.list ContentItem.reader inner
      (.ofJson (.array (tree.items.map ContentItem.toJson))) = .ok tree.items :=
    Reader.list_ofJson (admitted ("items", .array (tree.items.map ContentItem.toJson)) (by simp))
      fun item member _ => item.reader_toJson fun uiItem inItem rule inRules =>
        ordered rule (mem_rules_iff.mpr ⟨item, member, uiItem, inItem, inRules⟩)
  refine Record.reader_ofJson (by decide) entered (tree.items, ()) rfl ?_
  simp [Record.TakesAll, Field.takes_defaulted takesItems]

theorem Rule.legible_toJson (rule : Rule) (legible : rule.value.toJson.Legible) :
    rule.toJson.Legible := by
  simp [toJson, RuleType.toJson, legible]

theorem UiItem.legible_toJson (item : UiItem)
    (legible : ∀ rule ∈ item.rules, rule.value.toJson.Legible) : item.toJson.Legible := by
  have rules : ∀ rule ∈ item.rules, rule.toJson.Legible := fun rule member =>
    rule.legible_toJson (legible rule member)
  by_cases none : item.rules.isEmpty
  · simp [toJson, none]
  · simpa [toJson, none] using rules

theorem ContentItem.legible_toJson (item : ContentItem)
    (legible : ∀ uiItem ∈ item.uiItems, ∀ rule ∈ uiItem.rules, rule.value.toJson.Legible) :
    item.toJson.Legible := by
  have uiItems : ∀ uiItem ∈ item.uiItems, uiItem.toJson.Legible := fun uiItem member =>
    uiItem.legible_toJson (legible uiItem member)
  simpa [toJson] using uiItems

end

namespace Number

/-- Two and a half. -/
def twoAndAHalf : Number := ⟨0x4004000000000000⟩

theorem twoAndAHalf_readsBack : twoAndAHalf.ReadsBack := by
  have digits : Json.realChars twoAndAHalf = "2.5".toList := by
    decide +kernel
  have value : Node.ofNumeral ⟨false, [2], some [5], none⟩ = .real twoAndAHalf := by
    have number : Numeral.toNumber? ⟨false, [2], some [5], none⟩ = some twoAndAHalf := by
      decide +kernel
    rw [Node.ofNumeral, number]
    rfl
  rw [Number.ReadsBack, Json.parse_text_eq, Json.chars, digits]
  have scanned : Scanner.scan ("2.5".toList.map some) =
      ⟨.ofNumeral ⟨false, [2], some [5], none⟩, true⟩ := rfl
  rw [Reader.decode, scanned, value]
  rfl

end Number

namespace ContentTree

variable {tree : ContentTree}

/-- The numbers in the rule values of a tree. -/
def numbers (tree : ContentTree) : List Number :=
  tree.rules.flatMap fun rule => rule.value.numbers

theorem legible_toJson (scanned : ∀ x ∈ tree.numbers, x.IsScanned) : tree.toJson.Legible := by
  have value : ∀ rule ∈ tree.rules, rule.value.toJson.Legible := fun rule member =>
    rule.value.legible_toJson fun x inValue =>
      scanned x (List.mem_flatMap.mpr ⟨rule, member, inValue⟩)
  have items : ∀ item ∈ tree.items, item.toJson.Legible := fun item inTree =>
    item.legible_toJson fun uiItem inItem rule inRules =>
      value rule (mem_rules_iff.mpr ⟨item, inTree, uiItem, inItem, inRules⟩)
  simpa [toJson] using items

/-- The text of a tree is read as the tree, if it is nested no deeper than a text may be.  All maps
in a program ascend; that the numbers are read back is what the reading of numbers has to give. -/
theorem decodeText_toJson (tree : ContentTree) (ordered : ∀ rule ∈ tree.rules, rule.value.Ordered)
    (finite : ∀ x ∈ tree.numbers, x.isFinite = true)
    (readBack : ∀ x ∈ tree.numbers, x.isFinite = true → x.ReadsBack)
    (nested : tree.toJson.height ≤ Reading.depthLimit) :
    reader.decodeText tree.toJson.text = .ok tree := by
  have scanned : ∀ x ∈ tree.numbers, x.IsScanned := fun x member =>
    (readBack x member (finite x member)).isScanned (finite x member)
  have admits : (Reading.text 0).Admits tree.toJson.height :=
    Reading.admits_text.mpr (by omega)
  rw [Reader.decodeText_text reader (legible_toJson scanned), tree.reader_toJson ordered admits]

/-- Null, empty and nested values, a UI item without rules and a content item without UI items. -/
def mixedTree : ContentTree where
  items :=
    [⟨1, "home",
      [⟨10, "news", 2,
        [⟨7, ⟨1, .roles⟩, .list [.text "NOT", .list [], .map [], .null]⟩,
          ⟨8, ⟨2, .privacy⟩, .number .twoAndAHalf⟩,
          ⟨9, ⟨3, .signIn⟩, .map [("loggedIn", .bool true), ("phoneLoggedIn", .null)]⟩]⟩,
        ⟨11, "weather", -1, []⟩]⟩,
      ⟨2, "empty", []⟩]

theorem mixedTree_read : mixedTree.numbers = [.twoAndAHalf] ∧
    reader.decodeText mixedTree.toJson.text = .ok mixedTree := by
  have numbers : mixedTree.numbers = [.twoAndAHalf] := rfl
  have none : Sorted.Ascending ([] : List (String × Value)) := List.Pairwise.nil
  have two : Sorted.Ascending [("loggedIn", Value.bool true), ("phoneLoggedIn", .null)] :=
    List.pairwise_pair.mpr (by decide)
  refine ⟨numbers, decodeText_toJson mixedTree ?_ ?_ ?_ ?_⟩
  · simp [rules, mixedTree, Value.Ordered, Value.OrderedItems, Value.OrderedEntries, none, two]
  · rw [numbers]
    decide
  · rw [numbers]
    intro x member _
    rw [List.mem_singleton.mp member]
    exact Number.twoAndAHalf_readsBack
  · decide

end ContentTree

end Audience
