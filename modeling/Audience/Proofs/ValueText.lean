import Audience.Json.Sorted
import Audience.Proofs.SortedMaps
import Audience.Proofs.TreeText

namespace Audience

/-! Two ways to a rule value.

A value is read straight from its text, or made of the document that the text is read as.  Both
ways refuse the same texts and give the same value of the others, which is told here without either
way: at every depth the last field of a name counts.
-/

namespace Value

open Sorted

/-- A value stands for a document. -/
inductive StandsFor : Json → Value → Prop where
  | null : StandsFor .null .null
  | bool (flag : Bool) : StandsFor (.bool flag) (.bool flag)
  | whole (amount : Int) : StandsFor (.whole amount) (.number (.ofInt amount))
  | real (amount : Number) : StandsFor (.real amount) (.number amount)
  | text (content : String) : StandsFor (.string content) (.text content)
  | list {items : List Json} {values : List Value} (each : List.Forall₂ StandsFor items values) :
      StandsFor (.array items) (.list values)
  /-- The keys of a map are the names of the fields in ascending order, and the last field of a
  name says what stands under it. -/
  | map {fields : List (String × Json)} {entries : List (String × Value)}
      (ascending : Ascending entries)
      (keys : ∀ key, key ∈ entries.map Prod.fst ↔ key ∈ fields.map Prod.fst)
      (last : ∀ key value document, (key, value) ∈ entries → LastWith key document fields →
        StandsFor document value) :
      StandsFor (.object fields) (.map entries)

variable {document : Json} {value : Value} {key : String} {fields : List (String × Json)}
  {entries : List (String × Value)}

/-! Reading straight from the text. -/

mutual

theorem read_eq : (node : Node) → (reading : Reading) →
    read reading node = (node.readJson reading).map ofJson
  | .null, _ | .bool _, _ | .whole _, _ | .real _, _ | .string _, _ | .unreadable, _
  | .fault, _ => rfl
  | .array nodes closed, reading => by
      rw [read, Node.readJson]
      cases reading.enter with
      | error cause => rfl
      | ok inner =>
          simp only [bind, Except.bind, readItems_eq nodes inner]
          cases Node.readItems inner nodes with
          | error cause => rfl
          | ok items => cases closed <;> rfl
  | .object nodes closed, reading => by
      rw [read, Node.readJson]
      cases reading.enter with
      | error cause => rfl
      | ok inner =>
          simp only [bind, Except.bind, readEntries_eq nodes inner]
          cases Node.readFields inner nodes with
          | error cause => rfl
          | ok items => cases closed <;> rfl

theorem readItems_eq : (nodes : List Node) → (reading : Reading) →
    readItems reading nodes = (Node.readItems reading nodes).map ofItems
  | [], _ => rfl
  | node :: rest, reading => by
      simp only [readItems, Node.readItems, bind, Except.bind, read_eq node reading,
        readItems_eq rest reading]
      cases node.readJson reading with
      | error cause => rfl
      | ok item => cases Node.readItems reading rest <;> rfl

theorem readEntries_eq : (nodes : List (Option String × Node)) → (reading : Reading) →
    readEntries reading nodes = (Node.readFields reading nodes).map ofFields
  | [], _ => rfl
  | (none, _) :: _, _ => rfl
  | (some key, node) :: rest, reading => by
      simp only [readEntries, Node.readFields, bind, Except.bind, read_eq node reading,
        readEntries_eq rest reading]
      cases node.readJson reading with
      | error cause => rfl
      | ok item => cases Node.readFields reading rest <;> rfl

end

theorem ofText_eq (source : String) : ofText source = (Json.parse source).map ofJson := by
  simp only [ofText, reader, Json.parse, Reader.decodeText, Reader.decode, read_eq, bind,
    Except.bind]
  cases (Scanner.scan (Symbol.ofString source)).node.readJson (.text 0) with
  | error cause => rfl
  | ok document =>
    simp only [Except.map]
    split <;> rfl

/-! Objects as maps. -/

theorem ofFields_eq_map (fields : List (String × Json)) :
    ofFields fields = fields.map fun field => (field.1, ofJson field.2) := by
  induction fields with
  | nil => rfl
  | cons field rest ih => rw [ofFields, ih, List.map_cons]

theorem settle_ofFields (fields : List (String × Json)) : settle (ofFields fields) =
    (SortedMap.ofList fields).entries.map fun field => (field.1, ofJson field.2) := by
  rw [SortedMap.entries_ofList, settle, ofFields_eq_map]
  induction fields using List.reverseRecOn with
  | nil => rfl
  | append_singleton fields field ih =>
      rw [List.map_append, List.map_singleton, List.foldl_concat, List.foldl_concat, ih,
        map_insertKey]

theorem mem_settle_ofFields_iff : (key, value) ∈ settle (ofFields fields) ↔
    ∃ document, LastWith key document fields ∧ ofJson document = value := by
  simp only [settle_ofFields, List.mem_map, Prod.mk.injEq, ← SortedMap.get?_ofList_iff,
    ← SortedMap.mem_entries_iff]
  constructor
  · rintro ⟨⟨_, document⟩, member, rfl, rfl⟩
    exact ⟨document, member, rfl⟩
  · rintro ⟨document, member, rfl⟩
    exact ⟨(key, document), member, rfl, rfl⟩

theorem keys_settle_ofFields :
    key ∈ (settle (ofFields fields)).map Prod.fst ↔ key ∈ fields.map Prod.fst := by
  rw [settle_ofFields, List.map_map, ← SortedMap.contains_ofList_iff, SortedMap.contains,
    SortedMap.get?, isSome_lookup_iff]
  rfl

theorem ascending_settle (entries : List (String × Value)) : Ascending (settle entries) := by
  rw [settle, ← SortedMap.entries_ofList]
  exact (SortedMap.ofList entries).ascending

mutual

/-- A document may be made a map of its fields, at every depth, before a value is made of it. -/
theorem ofJson_sorted : (document : Json) → ofJson document.sorted = ofJson document
  | .null | .bool _ | .whole _ | .real _ | .string _ => rfl
  | .array items => by rw [Json.sorted, ofJson, ofJson, ofItems_sorted items]
  | .object fields => by
      rw [Json.sorted, ofJson, ofJson, settle_ofFields, SortedMap.ofList_entries, ← settle_ofFields,
        ofFields_sorted fields]

theorem ofItems_sorted : (items : List Json) → ofItems (Json.sortedItems items) = ofItems items
  | [] => rfl
  | item :: rest => by
      rw [Json.sortedItems, ofItems, ofItems, ofJson_sorted item, ofItems_sorted rest]

theorem ofFields_sorted : (fields : List (String × Json)) →
    ofFields (Json.sortedFields fields) = ofFields fields
  | [] => rfl
  | (key, document) :: rest => by
      rw [Json.sortedFields, ofFields, ofFields, ofJson_sorted document, ofFields_sorted rest]

end

/-! What a value is made of is what it stands for. -/

mutual

theorem standsFor_ofJson : (document : Json) → StandsFor document (ofJson document)
  | .null => .null
  | .bool flag => .bool flag
  | .whole amount => .whole amount
  | .real amount => .real amount
  | .string content => .text content
  | .array items => .list (forall₂_ofItems items)
  | .object fields => by
      refine .map (ascending_settle _) (fun key => keys_settle_ofFields) ?_
      intro key value document member last
      obtain ⟨found, foundLast, rfl⟩ := mem_settle_ofFields_iff.mp member
      rw [foundLast.unique last]
      exact standsFor_of_mem fields _ last.mem

theorem forall₂_ofItems : (items : List Json) → List.Forall₂ StandsFor items (ofItems items)
  | [] => .nil
  | item :: rest => .cons (standsFor_ofJson item) (forall₂_ofItems rest)

theorem standsFor_of_mem : (fields : List (String × Json)) →
    ∀ field ∈ fields, StandsFor field.2 (ofJson field.2)
  | [] => nofun
  | (_, document) :: rest =>
      List.forall_mem_cons.mpr ⟨standsFor_ofJson document, standsFor_of_mem rest⟩

end

theorem eq_settle_of_last (ascending : Ascending entries)
    (keys : ∀ key, key ∈ entries.map Prod.fst ↔ key ∈ fields.map Prod.fst)
    (last : ∀ key value document, (key, value) ∈ entries → LastWith key document fields →
      value = ofJson document) : entries = settle (ofFields fields) := by
  -- Both ascend, so it is enough that they have the same entries.
  apply ascending.eq_of_mem_iff (ascending_settle _)
  rintro ⟨key, value⟩
  rw [mem_settle_ofFields_iff]
  constructor
  · intro member
    have known : key ∈ fields.map Prod.fst := (keys key).mp (List.mem_map.mpr ⟨_, member, rfl⟩)
    obtain ⟨document, isLast⟩ := exists_lastWith_iff.mpr known
    exact ⟨document, isLast, (last key value document member isLast).symm⟩
  · rintro ⟨document, isLast, rfl⟩
    have known : key ∈ entries.map Prod.fst :=
      (keys key).mpr (exists_lastWith_iff.mp ⟨document, isLast⟩)
    obtain ⟨⟨_, value⟩, member, rfl⟩ := List.mem_map.mp known
    rwa [← last _ value document member isLast]

mutual

theorem StandsFor.eq_ofJson : (document : Json) → ∀ {value : Value},
    StandsFor document value → value = ofJson document
  | .null, _, .null => rfl
  | .bool _, _, .bool _ => rfl
  | .whole _, _, .whole _ => rfl
  | .real _, _, .real _ => rfl
  | .string _, _, .text _ => rfl
  | .array items, _, .list each => by rw [ofJson, eq_ofItems items each]
  | .object fields, _, .map ascending keys last => by
      rw [ofJson, eq_settle_of_last ascending keys]
      intro key value document member isLast
      exact eq_of_mem fields _ isLast.mem value (last key value document member isLast)

theorem eq_ofItems : (items : List Json) → ∀ {values : List Value},
    List.Forall₂ StandsFor items values → values = ofItems items
  | [], _, .nil => rfl
  | item :: rest, _, .cons first others => by
      rw [ofItems, StandsFor.eq_ofJson item first, eq_ofItems rest others]

theorem eq_of_mem : (fields : List (String × Json)) →
    ∀ field ∈ fields, ∀ value, StandsFor field.2 value → value = ofJson field.2
  | [] => nofun
  | (_, document) :: rest =>
      List.forall_mem_cons.mpr
        ⟨fun _ standsFor => StandsFor.eq_ofJson document standsFor, eq_of_mem rest⟩

end

theorem standsFor_iff : StandsFor document value ↔ value = ofJson document := by
  constructor
  · exact StandsFor.eq_ofJson document
  · rintro rfl
    exact standsFor_ofJson document

/-! Trying one shape after the other.

Each shape that a value may have has a reader of its own, and a document that has been read as a
whole is handed to one after the other.
-/

def readNull : Reader Value := fun _ node =>
  match node with
  | .null => .ok null
  | node => .error node.mismatch

def readNumber : Reader Value := fun _ node =>
  match node with
  | .whole amount => .ok (number (.ofInt amount))
  | .real amount => .ok (number amount)
  | node => .error node.mismatch

def readMap : Reader Value := fun reading node =>
  match node with
  | .object nodes closed => do
      let inner ← reading.enter
      let entries ← readEntries inner nodes
      if closed then .ok (map (SortedMap.ofList entries).entries) else .error .malformed
  | node => .error node.mismatch

/-- The shapes in the order in which they are tried. -/
def shapes : List (Reader Value) :=
  [readNull, fun reading node => (Reader.bool reading node).map bool, readNumber,
    fun reading node => (Reader.string reading node).map text,
    fun reading node => (Reader.list reader reading node).map list, readMap]

def firstShape? (document : Json) : Option Value :=
  shapes.findSome? fun read => (read .value (.ofJson document)).toOption

theorem readItems_ofJson (items : List Json) :
    Reader.items reader .value (Node.ofItems items) = .ok (ofItems items) := by
  induction items with
  | nil => rfl
  | cons item rest ih =>
      have first : reader .value (.ofJson item) = .ok (ofJson item) := by
        rw [reader, read_eq, Node.readJson_ofJson item Reading.admits_value]
        rfl
      rw [Node.ofItems, Reader.items, first, ih]
      rfl

theorem readEntries_ofJson (fields : List (String × Json)) :
    readEntries .value (Node.ofFields fields) = .ok (ofFields fields) := by
  rw [readEntries_eq, Node.readFields_ofFields fields Reading.admits_value]
  rfl

theorem firstShape?_eq (document : Json) : firstShape? document = some (ofJson document) := by
  cases document with
  | array items =>
      have skipped : firstShape? (.array items) = (shapes.drop 4).findSome? fun read =>
          (read .value (.ofJson (.array items))).toOption := rfl
      have read : Reader.list reader .value (.ofJson (.array items)) = .ok (ofItems items) := by
        simp [Reader.list, Node.ofJson, Reading.enter, readItems_ofJson, bind, Except.bind]
      simp [skipped, shapes, read, Except.map, Except.toOption, ofJson]
  | object fields =>
      have skipped : firstShape? (.object fields) = (shapes.drop 5).findSome? fun read =>
          (read .value (.ofJson (.object fields))).toOption := rfl
      have read : readMap .value (.ofJson (.object fields)) = .ok (ofJson (.object fields)) := by
        simp only [readMap, Node.ofJson, Reading.enter, bind, Except.bind, readEntries_ofJson,
          SortedMap.entries_ofList]
        rfl
      simp [skipped, shapes, read, Except.toOption]
  | _ => rfl

/-- A text is read as a value just when it is read as a document, and the value is the one that is
made of the document as a map, the first shape that takes the document, and the one that stands for
it. -/
theorem ofText_eq_ofJson_sorted (source : String) :
    ofText source = (Json.parse source).map (fun document => ofJson document.sorted) ∧
      ∀ value, (ofText source = .ok value ↔
          ∃ document, Json.parse source = .ok document ∧
            firstShape? document = some value) ∧
        (ofText source = .ok value ↔
          ∃ document, Json.parse source = .ok document ∧ StandsFor document value) := by
  have made := ofText_eq source
  simp only [ofJson_sorted, firstShape?_eq, standsFor_iff]
  refine ⟨made, fun value => ?_⟩
  rw [made, Except.map_eq_ok_iff]
  simp [eq_comm]

/-- Inside a list, too, the last field of a name counts. -/
example : firstShape? (.array [.object [("b", .whole 1), ("a", .null), ("b", .array [])]]) =
    some (.list [.map [("a", .null), ("b", .list [])]]) := rfl

end Value

end Audience
