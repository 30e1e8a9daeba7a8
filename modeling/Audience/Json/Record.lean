import Audience.Json.Decode

namespace Audience

/-! Records in JSON.

One list of fields says how a record is read in both its forms: as an object, with the fields in
any order and unknown ones passed over, and as an array of the fields in their order.
-/

/-- A field of a record. -/
structure Field where
  name : String
  aliases : List String
  type : Type
  read : Reader type
  /-- Its value in an object that does not have it. -/
  absent : Option type
  /-- Its value in an array that ends before it. -/
  beyondEnd : Option type

namespace Field

def required {α : Type} (name : String) (read : Reader α) (aliases : List String) : Field :=
  ⟨name, aliases, α, read, none, none⟩

/-- A field that takes a value of its own when it is left out. -/
def defaulted {α : Type} (name : String) (read : Reader α) (default : α)
    (aliases : List String) : Field :=
  ⟨name, aliases, α, read, some default, some default⟩

/-- A field that may be left out or null. -/
def optional {α : Type} (name : String) (read : Reader α) (aliases : List String) : Field :=
  ⟨name, aliases, Option α, Reader.optional read, some none, some none⟩

/-- A field that may be null and that only an object may leave out. -/
def nullable {α : Type} (name : String) (read : Reader α) : Field :=
  ⟨name, [], Option α, Reader.optional read, some none, none⟩

def isNamed (field : Field) (key : String) : Bool :=
  key == field.name || field.aliases.contains key

end Field

namespace Record

/-- The values of a list of fields. -/
@[reducible] def Values : List Field → Type
  | [] => Unit
  | field :: fields => field.type × Values fields

/-- The values of those fields that have been met. -/
@[reducible] def Slots : List Field → Type
  | [] => Unit
  | field :: fields => Option field.type × Slots fields

def noSlots : (fields : List Field) → Slots fields
  | [] => ()
  | _ :: fields => (none, noSlots fields)

/-- Reads the value of a key into its field; nothing if no field has that name. -/
def store (reading : Reading) (key : String) (node : Node) :
    (fields : List Field) → Slots fields → Option (Except DecodeError (Slots fields))
  | [], _ => none
  | field :: fields, (slot, slots) =>
      if field.isNamed key then
        match slot with
        | some _ => some (.error (.duplicateField field.name))
        | none => some ((field.read reading node).map fun value => (some value, slots))
      else (store reading key node fields slots).map fun outcome =>
        outcome.map fun rest => (slot, rest)

/-- Reads the fields of an object in the order in which they stand. -/
def collect (reading : Reading) (fields : List Field) (slots : Slots fields) :
    List (Option String × Node) → Except DecodeError (Slots fields)
  | [] => .ok slots
  | (none, _) :: _ => .error .malformed
  | (some key, node) :: rest =>
      match store reading key node fields slots with
      | some outcome => do
          let filled ← outcome
          collect reading fields filled rest
      | none => do
          node.skip reading
          collect reading fields slots rest

/-- Fills the fields that an object left out; the first that may not be is missing. -/
def complete : (fields : List Field) → Slots fields → Except DecodeError (Values fields)
  | [], _ => .ok ()
  | field :: fields, (slot, slots) =>
      match slot.or field.absent with
      | some value => (complete fields slots).map fun values => (value, values)
      | none => .error (.missingField field.name)

/-- Reads the fields from the items of an array. -/
def inOrder (reading : Reading) (closed : Bool) :
    (fields : List Field) → List Node → Except DecodeError (Values fields)
  | [], [] => if closed then .ok () else .error .malformed
  | [], _ :: _ =>
      match reading with
      | .text _ => .error .malformed
      | .value => .error .invalidLength
  | field :: fields, [] =>
      if closed then
        match field.beyondEnd with
        | some value => (inOrder reading closed fields []).map fun values => (value, values)
        | none => .error .invalidLength
      else .error .malformed
  | field :: fields, item :: rest => do
      let value ← field.read reading item
      let values ← inOrder reading closed fields rest
      .ok (value, values)

/-- Reads an object by the names of the fields. -/
def ofObject (fields : List Field) (reading : Reading) (entries : List (Option String × Node))
    (closed : Bool) : Except DecodeError (Values fields) := do
  let slots ← collect reading fields (noSlots fields) entries
  if closed then complete fields slots else .error .malformed

/-- Reads a record in either form. -/
def read (fields : List Field) : Reader (Values fields) := fun reading node =>
  match node with
  | .object entries closed => do
      let inner ← reading.enter
      ofObject fields inner entries closed
  | .array nodes closed => do
      let inner ← reading.enter
      inOrder inner closed fields nodes
  | node => .error node.mismatch

/-- A reader for a type made from the values of a record. -/
def reader {α : Type} (fields : List Field) (build : Values fields → α) : Reader α :=
  fun reading node => (read fields reading node).map build

end Record

end Audience
