import Audience.Json.Record

namespace Audience

/-! Objects read by the names of their fields.

An object gives the values of its fields when each field takes its value from the entries with its
name, of which there is at most one, and no other entry stands in the way.  The order of the
entries plays no part in that.
-/

/-- The entries of an object in the order in which they stand. -/
abbrev Entries := List (Option String × Node)

namespace Field

variable {field other : Field} {reading : Reading} {entries : Entries}
  {entry : Option String × Node} {key : String}

def names (field : Field) : List String := field.name :: field.aliases

theorem isNamed_iff : field.isNamed key = true ↔ key ∈ field.names := by
  simp [isNamed, names]

/-- No name of one field is a name of the other. -/
def Apart (field other : Field) : Prop := ∀ name ∈ field.names, other.isNamed name = false

instance : DecidableRel Apart := fun field other =>
  inferInstanceAs (Decidable (∀ name ∈ field.names, other.isNamed name = false))

/-- Whether an entry has the name of a field. -/
def isEntry (field : Field) (entry : Option String × Node) : Bool :=
  entry.1.any field.isNamed

theorem Apart.isEntry (apart : field.Apart other) (isEntry : field.isEntry entry = true) :
    other.isEntry entry = false := by
  obtain ⟨key, node⟩ := entry
  cases key with
  | none => rfl
  | some key => exact apart key (isNamed_iff.mp isEntry)

/-- The entries that have the name of a field. -/
def own (field : Field) (entries : Entries) : Entries := entries.filter field.isEntry

/-- The entries that a field leaves to the others. -/
def leave (field : Field) (entries : Entries) : Entries :=
  entries.filter fun entry => !field.isEntry entry

theorem Apart.own_leave (apart : field.Apart other) (entries : Entries) :
    other.own (field.leave entries) = other.own entries := by
  rw [own, leave, List.filter_filter]
  refine List.filter_congr fun entry _ => ?_
  cases isEntry : field.isEntry entry with
  | false => simp
  | true => simp [apart.isEntry isEntry]

/-- What a field takes from the entries that have its name. -/
inductive Takes (field : Field) (reading : Reading) : Entries → field.type → Prop
  | written {entry : Option String × Node} {value : field.type}
      (reads : field.read reading entry.2 = .ok value) : Takes field reading [entry] value
  | leftOut {value : field.type} (absent : field.absent = some value) : Takes field reading [] value

theorem takes_iff {value : field.type} :
    field.Takes reading entries value ↔
      (∃ entry, entries = [entry] ∧ field.read reading entry.2 = .ok value) ∨
        entries = [] ∧ field.absent = some value := by
  constructor
  · intro takes
    cases takes with
    | written reads => exact .inl ⟨_, rfl, reads⟩
    | leftOut absent => exact .inr ⟨rfl, absent⟩
  · rintro (⟨entry, rfl, reads⟩ | ⟨rfl, absent⟩)
    · exact .written reads
    · exact .leftOut absent

/-- What the entries with the name of a field make of the value met so far. -/
inductive Meets (field : Field) (reading : Reading) :
    Option field.type → Entries → Option field.type → Prop
  | kept {slot : Option field.type} : Meets field reading slot [] slot
  | filled {entry : Option String × Node} {value : field.type}
      (reads : field.read reading entry.2 = .ok value) :
      Meets field reading none [entry] (some value)

theorem meets_nil_iff {slot filled : Option field.type} :
    field.Meets reading slot [] filled ↔ slot = filled := by
  constructor
  · intro meets
    cases meets with
    | kept => rfl
  · rintro rfl
    exact .kept

theorem meets_some_iff {value : field.type} {slot : Option field.type} :
    field.Meets reading (some value) entries slot ↔ entries = [] ∧ slot = some value := by
  constructor
  · intro meets
    cases meets with
    | kept => exact ⟨rfl, rfl⟩
  · rintro ⟨rfl, rfl⟩
    exact .kept

theorem meets_none_cons_iff {slot : Option field.type} :
    field.Meets reading none (entry :: entries) slot ↔
      ∃ value, field.read reading entry.2 = .ok value ∧ entries = [] ∧ slot = some value := by
  constructor
  · intro meets
    cases meets with
    | filled reads => exact ⟨_, reads, rfl, rfl⟩
  · rintro ⟨value, reads, rfl, rfl⟩
    exact .filled reads

theorem takes_iff_meets {value : field.type} :
    field.Takes reading entries value ↔
      ∃ slot, field.Meets reading none entries slot ∧ slot.or field.absent = some value := by
  constructor
  · intro takes
    cases takes with
    | written reads => exact ⟨_, .filled reads, rfl⟩
    | leftOut absent => exact ⟨none, .kept, absent⟩
  · rintro ⟨slot, meets, completed⟩
    cases meets with
    | kept => exact .leftOut completed
    | filled reads =>
        cases completed
        exact .written reads

end Field

namespace Record

variable {field : Field} {fields : List Field} {reading : Reading} {entries : Entries}

/-- Each field takes its value from its own entries. -/
def TakesAll (reading : Reading) (entries : Entries) : (fields : List Field) → Values fields → Prop
  | [], _ => True
  | field :: fields, (value, values) =>
      field.Takes reading (field.own entries) value ∧ TakesAll reading entries fields values

/-- All keys are texts, and an entry that no field has the name of can be passed over. -/
def Passable (reading : Reading) (fields : List Field) (entries : Entries) : Prop :=
  ∀ entry ∈ entries, entry.1.isSome ∧
    ((∀ field ∈ fields, field.isEntry entry = false) → entry.2.skip reading = .ok ())

theorem collect_nil_iff : collect reading [] () entries = .ok () ↔ Passable reading [] entries := by
  induction entries with
  | nil => simp [collect, Passable]
  | cons entry rest ih =>
      obtain ⟨key, node⟩ := entry
      cases key with
      | none => simp [collect, Passable]
      | some key =>
          simp only [Passable, List.forall_mem_cons] at ih ⊢
          cases skipped : node.skip reading <;>
            simp [collect, store, skipped, ih, bind, Except.bind]

/-- The first of some fields is filled from its own entries, the others from the rest. -/
theorem collect_cons_iff {slot filled : Option field.type} {slots others : Slots fields} :
    collect reading (field :: fields) (slot, slots) entries = .ok (filled, others) ↔
      field.Meets reading slot (field.own entries) filled ∧
        collect reading fields slots (field.leave entries) = .ok others := by
  induction entries generalizing slot slots with
  | nil =>
      simp only [collect, Field.own, Field.leave, List.filter_nil, Except.ok.injEq, Prod.mk.injEq,
        Field.meets_nil_iff]
  | cons entry rest ih =>
      simp only [Field.own, Field.leave] at ih ⊢
      obtain ⟨key, node⟩ := entry
      cases key with
      | none => simp [collect, Field.isEntry]
      | some key =>
          -- An entry of the first field meets its slot; any other is stored by the fields behind.
          by_cases named : field.isNamed key
          · cases slot with
            | some value =>
                simp [collect, store, named, Field.isEntry, Field.meets_some_iff, bind,
                  Except.bind]
            | none =>
                cases outcome : field.read reading node with
                | error reason =>
                    simp [collect, store, named, Field.isEntry, Field.meets_none_cons_iff, bind,
                      Except.bind, outcome, Except.map]
                | ok value =>
                    simp [collect, store, named, Field.isEntry, Field.meets_none_cons_iff, bind,
                      Except.bind, outcome, Except.map, ih, Field.meets_some_iff]
          · cases stored : store reading key node fields slots with
            | none =>
                cases skipped : node.skip reading <;>
                  simp [collect, store, named, Field.isEntry, stored, skipped, ih, bind,
                    Except.bind]
            | some outcome =>
                cases outcome <;>
                  simp [collect, store, named, Field.isEntry, stored, ih, bind, Except.bind,
                    Except.map]

theorem complete_cons_iff {slot : Option field.type} {slots : Slots fields} {value : field.type}
    {values : Values fields} :
    complete (field :: fields) (slot, slots) = .ok (value, values) ↔
      slot.or field.absent = some value ∧ complete fields slots = .ok values := by
  cases found : slot.or field.absent <;>
    cases outcome : complete fields slots <;>
      simp [complete, found, outcome, Except.map]

theorem ofObject_ok_iff_collect {values : Values fields} :
    ofObject fields reading entries true = .ok values ↔
      ∃ slots, collect reading fields (noSlots fields) entries = .ok slots ∧
        complete fields slots = .ok values := by
  cases outcome : collect reading fields (noSlots fields) entries <;>
    simp [ofObject, outcome, bind, Except.bind]

theorem takesAll_leave_iff (apart : ∀ other ∈ fields, field.Apart other) {values : Values fields} :
    TakesAll reading (field.leave entries) fields values ↔
      TakesAll reading entries fields values := by
  induction fields with
  | nil => exact Iff.rfl
  | cons head rest ih =>
      obtain ⟨value, values⟩ := values
      obtain ⟨headApart, restApart⟩ := List.forall_mem_cons.mp apart
      rw [TakesAll, TakesAll, headApart.own_leave]
      exact and_congr_right fun _ => ih restApart

theorem passable_leave_iff :
    Passable reading fields (field.leave entries) ↔ Passable reading (field :: fields) entries := by
  simp only [Passable, Field.leave, List.mem_filter, Bool.not_eq_true', and_imp,
    List.forall_mem_cons]
  refine forall_congr' fun entry => forall_congr' fun _ => ?_
  cases isEntry : field.isEntry entry with
  | false => simp
  | true =>
      have isText : entry.1.isSome = true := Option.isSome_of_any isEntry
      simp [isText]

/-- An object gives the values that its fields take, each from its own entries. -/
theorem ofObject_ok_iff (apart : fields.Pairwise Field.Apart) {values : Values fields} :
    ofObject fields reading entries true = .ok values ↔
      TakesAll reading entries fields values ∧ Passable reading fields entries := by
  induction fields generalizing entries with
  | nil =>
      rw [ofObject_ok_iff_collect, ← collect_nil_iff]
      exact ⟨fun ⟨_, collected, _⟩ => ⟨trivial, collected⟩,
        fun ⟨_, collected⟩ => ⟨(), collected, rfl⟩⟩
  | cons field fields ih =>
      obtain ⟨value, values⟩ := values
      obtain ⟨headApart, restApart⟩ := List.pairwise_cons.mp apart
      have rest : ofObject fields reading (field.leave entries) true = .ok values ↔
          TakesAll reading entries fields values ∧ Passable reading (field :: fields) entries :=
        (ih restApart).trans (and_congr (takesAll_leave_iff headApart) passable_leave_iff)
      rw [ofObject_ok_iff_collect, TakesAll, Field.takes_iff_meets]
      constructor
      · rintro ⟨⟨slot, slots⟩, collected, all⟩
        obtain ⟨meets, others⟩ := collect_cons_iff.mp collected
        obtain ⟨found, completed⟩ := complete_cons_iff.mp all
        obtain ⟨takes, passable⟩ :=
          rest.mp (ofObject_ok_iff_collect.mpr ⟨slots, others, completed⟩)
        exact ⟨⟨⟨slot, meets, found⟩, takes⟩, passable⟩
      · rintro ⟨⟨⟨slot, meets, found⟩, takes⟩, passable⟩
        obtain ⟨slots, others, completed⟩ :=
          ofObject_ok_iff_collect.mp (rest.mpr ⟨takes, passable⟩)
        exact ⟨(slot, slots), collect_cons_iff.mpr ⟨meets, others⟩,
          complete_cons_iff.mpr ⟨found, completed⟩⟩

theorem inOrder_first {closed : Bool} {nodes : List Node} {value : field.type}
    {values : Values fields}
    (ordered : inOrder reading closed (field :: fields) nodes = .ok (value, values)) :
    nodes = [] ∧ field.beyondEnd = some value ∨
      ∃ first rest, nodes = first :: rest ∧ field.read reading first = .ok value := by
  cases nodes with
  | nil =>
      cases beyond : field.beyondEnd <;> cases closed <;>
        cases others : inOrder reading true fields [] <;>
          simp_all [inOrder, Except.map]
  | cons first rest =>
      cases outcome : field.read reading first <;>
        cases others : inOrder reading closed fields rest <;>
          simp_all [inOrder, bind, Except.bind]

/-- A record was read from an object or from an array, neither of them broken off. -/
theorem reader_ok {α : Type} {build : Values fields → α} {node : Node} {value : α}
    (read : reader fields build reading node = .ok value) :
    ∃ inner values, reading.enter = .ok inner ∧ build values = value ∧
      ((∃ entries, node = .object entries true ∧
          ofObject fields inner entries true = .ok values) ∨
        ∃ nodes closed, node = .array nodes closed ∧
          inOrder inner closed fields nodes = .ok values) := by
  cases outcome : Record.read fields reading node with
  | error reason => simp [reader, outcome, Except.map] at read
  | ok values =>
      simp only [reader, outcome, Except.map, Except.ok.injEq] at read
      cases entered : reading.enter with
      | error reason => cases node <;> simp [Record.read, entered, bind, Except.bind] at outcome
      | ok inner =>
          refine ⟨inner, values, rfl, read, ?_⟩
          cases node with
          | object entries closed =>
              simp only [Record.read, entered, bind, Except.bind] at outcome
              cases closed with
              | true => exact .inl ⟨entries, rfl, outcome⟩
              | false =>
                  cases collected : collect inner fields (noSlots fields) entries <;>
                    simp [ofObject, collected, bind, Except.bind] at outcome
          | array nodes closed =>
              simp only [Record.read, entered, bind, Except.bind] at outcome
              exact .inr ⟨nodes, closed, rfl, outcome⟩
          | _ => simp [Record.read] at outcome

end Record

end Audience
