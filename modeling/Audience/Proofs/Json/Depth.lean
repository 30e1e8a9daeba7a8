import Audience.Proofs.CallerSpelling

namespace Audience

/-! Values at another depth of a text.

The containers around a value matter to its reader only in that they count towards the limit of
nesting.  So a value that could be read at one depth gives the same at any depth at which its own
containers still find room.
-/

namespace Node

mutual

/-- How deep the arrays and objects of a value are nested. -/
def height : Node → Nat
  | array items _ => itemsHeight items + 1
  | object fields _ => fieldsHeight fields + 1
  | _ => 0

def itemsHeight : List Node → Nat
  | [] => 0
  | item :: rest => max item.height (itemsHeight rest)

def fieldsHeight : List (Option String × Node) → Nat
  | [] => 0
  | (_, value) :: rest => max value.height (fieldsHeight rest)

end

theorem itemsHeight_le_iff {items : List Node} {levels : Nat} :
    itemsHeight items ≤ levels ↔ ∀ item ∈ items, item.height ≤ levels := by
  induction items with
  | nil => simp [itemsHeight]
  | cons item rest ih => rw [itemsHeight, Nat.max_le, ih, List.forall_mem_cons]

theorem fieldsHeight_le_iff {entries : Entries} {levels : Nat} :
    fieldsHeight entries ≤ levels ↔ ∀ entry ∈ entries, entry.2.height ≤ levels := by
  induction entries with
  | nil => simp [fieldsHeight]
  | cons entry rest ih =>
      obtain ⟨key, value⟩ := entry
      rw [fieldsHeight, Nat.max_le, ih, List.forall_mem_cons]

end Node

namespace Reading

/-- The readings of a text in which a value may stand. -/
inductive HasRoom (node : Node) : Reading → Prop
  | text {depth : Nat} (room : depth + node.height ≤ depthLimit) : HasRoom node (.text depth)

variable {reading : Reading}

theorem HasRoom.enter_array {items : List Node} {closed : Bool}
    (room : reading.HasRoom (.array items closed)) :
    ∃ inner, reading.enter = .ok inner ∧ ∀ item ∈ items, inner.HasRoom item := by
  obtain @⟨depth, room⟩ := room
  rw [Node.height] at room
  have below := Node.itemsHeight_le_iff.mp (Nat.le_refl (Node.itemsHeight items))
  refine ⟨.text (depth + 1), if_pos (by omega), fun item member => .text ?_⟩
  have := below item member
  omega

theorem HasRoom.enter_object {entries : Entries} {closed : Bool}
    (room : reading.HasRoom (.object entries closed)) :
    ∃ inner, reading.enter = .ok inner ∧ ∀ entry ∈ entries, inner.HasRoom entry.2 := by
  obtain @⟨depth, room⟩ := room
  rw [Node.height] at room
  have below := Node.fieldsHeight_le_iff.mp (Nat.le_refl (Node.fieldsHeight entries))
  refine ⟨.text (depth + 1), if_pos (by omega), fun entry member => .text ?_⟩
  have := below entry member
  omega

theorem enter_text {depth : Nat} {inner : Reading} (entered : (text depth).enter = .ok inner) :
    inner = text (depth + 1) := by
  rw [enter] at entered
  split at entered
  · exact (Except.ok.inj entered).symm
  · contradiction

end Reading

/-- What a reader makes of a value in a text it makes of it wherever the value has room. -/
def Reader.Movable {α : Type} (read : Reader α) : Prop :=
  ∀ ⦃depth : Nat⦄ ⦃node : Node⦄ ⦃value : α⦄, read (.text depth) node = .ok value →
    ∀ ⦃reading : Reading⦄, reading.HasRoom node → read reading node = .ok value

namespace Node

mutual

theorem readJson_movable : (node : Node) → ∀ {depth : Nat} {document : Json},
    node.readJson (.text depth) = .ok document → ∀ {reading : Reading}, reading.HasRoom node →
      node.readJson reading = .ok document
  | array items closed, depth, document, read, reading, room => by
      obtain ⟨inner, entered, rooms⟩ := room.enter_array
      simp only [readJson, Except.bind_eq_ok_iff] at read ⊢
      obtain ⟨before, enteredBefore, values, readAll, done⟩ := read
      cases Reading.enter_text enteredBefore
      exact ⟨inner, entered, values, readItems_movable items readAll rooms, done⟩
  | object fields closed, depth, document, read, reading, room => by
      obtain ⟨inner, entered, rooms⟩ := room.enter_object
      simp only [readJson, Except.bind_eq_ok_iff] at read ⊢
      obtain ⟨before, enteredBefore, values, readAll, done⟩ := read
      cases Reading.enter_text enteredBefore
      exact ⟨inner, entered, values, readFields_movable fields readAll rooms, done⟩
  | null, _, _, read, _, _ | bool _, _, _, read, _, _ | whole _, _, _, read, _, _
  | real _, _, _, read, _, _ | string _, _, _, read, _, _ | unreadable, _, _, read, _, _
  | fault, _, _, read, _, _ => by simpa only [readJson] using read

theorem readItems_movable : (items : List Node) → ∀ {depth : Nat} {documents : List Json},
    readItems (.text depth) items = .ok documents → ∀ {reading : Reading},
      (∀ item ∈ items, reading.HasRoom item) → readItems reading items = .ok documents
  | [], _, _, read, _, _ => by simpa only [readItems] using read
  | item :: rest, depth, documents, read, reading, rooms => by
      obtain ⟨room, others⟩ := List.forall_mem_cons.mp rooms
      simp only [readItems, Except.bind_eq_ok_iff] at read ⊢
      obtain ⟨value, readFirst, values, readRest, done⟩ := read
      exact ⟨value, readJson_movable item readFirst room, values,
        readItems_movable rest readRest others, done⟩

theorem readFields_movable : (entries : List (Option String × Node)) → ∀ {depth : Nat}
    {fields : List (String × Json)}, readFields (.text depth) entries = .ok fields →
      ∀ {reading : Reading}, (∀ entry ∈ entries, reading.HasRoom entry.2) →
        readFields reading entries = .ok fields
  | [], _, _, read, _, _ => by simpa only [readFields] using read
  | (none, _) :: _, _, _, read, _, _ => by simp [readFields] at read
  | (some key, node) :: rest, depth, documents, read, reading, rooms => by
      obtain ⟨room, others⟩ := List.forall_mem_cons.mp rooms
      simp only [readFields, Except.bind_eq_ok_iff] at read ⊢
      obtain ⟨value, readFirst, values, readRest, done⟩ := read
      exact ⟨value, readJson_movable node readFirst room, values,
        readFields_movable rest readRest others, done⟩

end

end Node

namespace Reader

variable {α : Type} {read : Reader α}

theorem movable_string : string.Movable := fun _ _ _ read _ _ => read

theorem movable_bool : bool.Movable := fun _ _ _ read _ _ => read

theorem movable_int64 : int64.Movable := fun _ _ _ read _ _ => read

theorem Movable.optional (movable : read.Movable) : (optional read).Movable := by
  intro depth node value found reading room
  by_cases isNull : node = .null
  · subst isNull
    exact found
  · rw [optional_of_ne_null isNull] at found ⊢
    obtain ⟨inner, readInner, same⟩ := Except.map_eq_ok_iff.mp found
    exact Except.map_eq_ok_iff.mpr ⟨inner, movable readInner room, same⟩

theorem Movable.items (movable : read.Movable) {depth : Nat} {nodes : List Node} {values : List α}
    (found : items read (.text depth) nodes = .ok values) {reading : Reading}
    (rooms : ∀ node ∈ nodes, reading.HasRoom node) : items read reading nodes = .ok values := by
  induction nodes generalizing values with
  | nil => exact found
  | cons node rest ih =>
      obtain ⟨room, others⟩ := List.forall_mem_cons.mp rooms
      simp only [Reader.items, Except.bind_eq_ok_iff] at found ⊢
      obtain ⟨first, readFirst, later, readRest, done⟩ := found
      exact ⟨first, movable readFirst room, later, ih readRest others, done⟩

theorem Movable.list (movable : read.Movable) : (list read).Movable := by
  intro depth node values found reading room
  cases node with
  | array nodes closed =>
      obtain ⟨inner, entered, rooms⟩ := room.enter_array
      simp only [Reader.list, Except.bind_eq_ok_iff] at found ⊢
      obtain ⟨before, enteredBefore, items, readAll, done⟩ := found
      cases Reading.enter_text enteredBefore
      exact ⟨inner, entered, items, movable.items readAll rooms, done⟩
  | _ => exact found

end Reader

namespace Record

variable {fields : List Field} {reading : Reading} {depth : Nat} {entries : Entries}

theorem takesAll_movable (movable : ∀ field ∈ fields, Reader.Movable field.read)
    (rooms : ∀ entry ∈ entries, reading.HasRoom entry.2) {values : Values fields}
    (takes : TakesAll (.text depth) entries fields values) :
    TakesAll reading entries fields values := by
  induction fields with
  | nil => trivial
  | cons field fields ih =>
      obtain ⟨value, values⟩ := values
      obtain ⟨first, others⟩ := List.forall_mem_cons.mp movable
      refine ⟨?_, ih others takes.2⟩
      rcases Field.takes_iff.mp takes.1 with ⟨entry, owned, reads⟩ | ⟨owned, absent⟩
      · have member : entry ∈ field.own entries := owned ▸ List.mem_singleton_self entry
        rw [owned]
        exact .written (first reads (rooms entry (List.mem_filter.mp member).1))
      · rw [owned]
        exact .leftOut absent

theorem inOrder_movable (movable : ∀ field ∈ fields, Reader.Movable field.read) {nodes : List Node}
    (rooms : ∀ node ∈ nodes, reading.HasRoom node) {closed : Bool} {values : Values fields}
    (ordered : inOrder (.text depth) closed fields nodes = .ok values) :
    inOrder reading closed fields nodes = .ok values := by
  induction fields generalizing nodes with
  | nil =>
      cases nodes with
      | nil => exact ordered
      | cons node rest => cases ordered
  | cons field fields ih =>
      obtain ⟨first, others⟩ := List.forall_mem_cons.mp movable
      cases nodes with
      | nil =>
          cases closed with
          | false => cases ordered
          | true =>
              cases beyond : field.beyondEnd with
              | none => simp [inOrder, beyond] at ordered
              | some value =>
                  simp only [inOrder, beyond, if_true, Except.map_eq_ok_iff] at ordered ⊢
                  obtain ⟨later, readRest, done⟩ := ordered
                  exact ⟨later, ih others (List.forall_mem_nil _) readRest, done⟩
      | cons node rest =>
          obtain ⟨room, otherRooms⟩ := List.forall_mem_cons.mp rooms
          simp only [inOrder, Except.bind_eq_ok_iff] at ordered ⊢
          obtain ⟨value, reads, later, readRest, done⟩ := ordered
          exact ⟨value, first reads room, later, ih others otherRooms readRest, done⟩

theorem reader_movable {α : Type} {build : Values fields → α}
    (apart : fields.Pairwise Field.Apart) (movable : ∀ field ∈ fields, Reader.Movable field.read) :
    (reader fields build).Movable := by
  intro depth node value read reading room
  obtain ⟨before, values, enteredBefore, built, form⟩ := reader_ok read
  cases Reading.enter_text enteredBefore
  rcases form with ⟨entries, rfl, filled⟩ | ⟨nodes, closed, rfl, ordered⟩
  · obtain ⟨inner, entered, rooms⟩ := room.enter_object
    obtain ⟨takes, passable⟩ := (ofObject_ok_iff apart).mp filled
    obtain @⟨deeper, _⟩ := room
    cases Reading.enter_text entered
    exact (reader_object_iff apart).mpr
      ⟨_, values, entered, takesAll_movable movable rooms takes, passable, built⟩
  · obtain ⟨inner, entered, rooms⟩ := room.enter_array
    simp only [reader, Record.read, Except.map_eq_ok_iff, Except.bind_eq_ok_iff]
    exact ⟨values, ⟨inner, entered, inOrder_movable movable rooms ordered⟩, built⟩

end Record

namespace SignIn

variable {reading : Reading} {depth : Nat}

theorem reads_movable {node : Node} (room : reading.HasRoom node)
    (reads : node.Reads (.text depth)) : node.Reads reading := by
  obtain ⟨document, read⟩ := reads
  exact ⟨document, node.readJson_movable read room⟩

theorem reader_movable : reader.Movable := by
  intro depth node signIn read reading room
  cases node with
  | object entries closed =>
      cases closed with
      | false =>
          simp [reader, Except.bind_eq_ok_iff] at read
      | true =>
          obtain ⟨inner, entered, rooms⟩ := room.enter_object
          rw [reader_object_iff] at read ⊢
          obtain ⟨before, version, enteredBefore, takes, readable, found⟩ := read
          cases Reading.enter_text enteredBefore
          refine ⟨inner, version, entered, ?_, fun entry member => ?_, found⟩
          · -- The generation stands in a text, which is read in the same way everywhere.
            rcases Field.takes_iff.mp takes with ⟨entry, owned, reads⟩ | ⟨_, absent⟩
            · rw [owned]
              exact .written reads
            · cases absent
          · obtain ⟨isText, reads⟩ := readable entry member
            exact ⟨isText, fun other => reads_movable (rooms entry member) (reads other)⟩
  | array nodes closed =>
      obtain ⟨inner, entered, rooms⟩ := room.enter_array
      cases nodes with
      | nil => cases closed <;> simp [reader, Except.bind_eq_ok_iff] at read
      | cons first rest =>
          simp only [reader, Except.bind_eq_ok_iff] at read ⊢
          obtain ⟨before, enteredBefore, version, named, documents, readRest, found⟩ := read
          cases Reading.enter_text enteredBefore
          obtain ⟨_, others⟩ := List.forall_mem_cons.mp rooms
          exact ⟨inner, entered, version, named, documents,
            Node.readItems_movable rest readRest others, found⟩
  | _ => exact read

end SignIn

namespace Caller

theorem reader_movable : reader.Movable := by
  have identity : Identity.reader.Movable := Record.reader_movable (by decide) <|
    List.forall_mem_cons.mpr ⟨Reader.movable_string.optional, List.forall_mem_cons.mpr
      ⟨Reader.movable_int64, List.forall_mem_singleton.mpr Reader.movable_string.list⟩⟩
  have loyalty : Loyalty.reader.Movable := Record.reader_movable (by decide) <|
    List.forall_mem_singleton.mpr Reader.movable_bool
  have platform : Platform.reader.Movable := Record.reader_movable (by decide) <|
    List.forall_mem_singleton.mpr Reader.movable_string.optional
  exact Record.reader_movable (by decide) <| List.forall_mem_cons.mpr ⟨identity.optional,
    List.forall_mem_cons.mpr ⟨SignIn.reader_movable.optional, List.forall_mem_cons.mpr
      ⟨loyalty.optional, List.forall_mem_singleton.mpr platform.optional⟩⟩⟩

end Caller

end Audience
