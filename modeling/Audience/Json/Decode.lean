import Audience.Json.Scanner
import Audience.Text.Position

namespace Except

variable {ε α β : Type}

theorem map_eq_ok_iff {outcome : Except ε α} {change : α → β} {value : β} :
    outcome.map change = .ok value ↔ ∃ first, outcome = .ok first ∧ change first = value := by
  cases outcome with
  | error cause => simp [Except.map]
  | ok first => simp [Except.map]

theorem bind_eq_ok_iff {outcome : Except ε α} {next : α → Except ε β} {value : β} :
    (outcome >>= next) = .ok value ↔ ∃ first, outcome = .ok first ∧ next first = .ok value := by
  cases outcome with
  | error cause => simp [bind, Except.bind]
  | ok first => simp [bind, Except.bind]

theorem bind_eq_error_iff {outcome : Except ε α} {next : α → Except ε β} {cause : ε} :
    (outcome >>= next) = .error cause ↔
      outcome = .error cause ∨ ∃ first, outcome = .ok first ∧ next first = .error cause := by
  cases outcome with
  | error cause => simp [bind, Except.bind]
  | ok first => simp [bind, Except.bind]

end Except

namespace Audience

/-! Reading values out of scanned JSON.

A reader goes through a node from left to right and reports the first thing that is wrong.  What
kind of value stands somewhere is decided by its first character; a container where another kind
is wanted is refused without being entered.
-/

/-- Why a JSON text gives no value of the wanted type. -/
inductive DecodeError where
  /-- The text is no JSON, or holds a value that cannot be read. -/
  | malformed
  | invalidType
  | invalidValue
  | invalidLength
  | missingField (name : String)
  | duplicateField (name : String)
  | unknownVersion (name : String)
  | unknownRuleType (name : String)
deriving Repr, DecidableEq

namespace DecodeError

/-- What is wrong with the data; nothing when the text is no JSON.  This is less than the decoder
itself says: neither the value nor the place of the error is told, and a name at the end loses what
reads like a position. -/
def detail? : DecodeError → Option String
  | malformed => none
  | invalidType => some "invalid type"
  | invalidValue => some "invalid value"
  | invalidLength => some "invalid length"
  | missingField name => some ("missing field `" ++ name ++ "`")
  | duplicateField name => some ("duplicate field `" ++ name ++ "`")
  | unknownVersion name =>
      some ("unknown variant `" ++ name ++ "`, expected one of `v1`, `v2`, `v3`")
  | unknownRuleType name => some (Position.strip ("unknown rule type: " ++ name))

end DecodeError

/-- What a node is read from. -/
inductive Reading where
  /-- Its text, inside `depth` open containers. -/
  | text (depth : Nat)
  /-- A value that has been read as a whole before. -/
  | value
deriving Repr, DecidableEq

namespace Reading

/-- Containers may be nested this deep in a text. -/
def depthLimit : Nat := 127

/-- Enters a container. -/
def enter : Reading → Except DecodeError Reading
  | text depth => if depth < depthLimit then .ok (text (depth + 1)) else .error .malformed
  | value => .ok value

end Reading

/-- A way to read values of a type. -/
abbrev Reader (α : Type) := Reading → Node → Except DecodeError α

namespace Node

/-- The error for a node that is not of the wanted kind. -/
def mismatch : Node → DecodeError
  | fault => .malformed
  | unreadable => .malformed
  | _ => .invalidType

mutual

/-- Reads any value. -/
def readJson (reading : Reading) : Node → Except DecodeError Json
  | null => .ok .null
  | bool value => .ok (.bool value)
  | whole value => .ok (.whole value)
  | real value => .ok (.real value)
  | string value => .ok (.string value)
  | array items closed => do
      let inner ← reading.enter
      let values ← readItems inner items
      if closed then .ok (.array values) else .error .malformed
  | object fields closed => do
      let inner ← reading.enter
      let values ← readFields inner fields
      if closed then .ok (.object values) else .error .malformed
  | _ => .error .malformed

def readItems (reading : Reading) : List Node → Except DecodeError (List Json)
  | [] => .ok []
  | item :: rest => do
      let value ← item.readJson reading
      let values ← readItems reading rest
      .ok (value :: values)

def readFields (reading : Reading) :
    List (Option String × Node) → Except DecodeError (List (String × Json))
  | [] => .ok []
  | (some key, node) :: rest => do
      let value ← node.readJson reading
      let values ← readFields reading rest
      .ok ((key, value) :: values)
  | (none, _) :: _ => .error .malformed

end

/-- Passes over a value nobody asked for.  In a text only its form counts. -/
def skip (reading : Reading) (node : Node) : Except DecodeError Unit :=
  match reading with
  | .text _ => if node.wellFormed then .ok () else .error .malformed
  | .value => .ok ()

end Node

namespace Reader

def string : Reader String := fun _ node =>
  match node with
  | .string value => .ok value
  | node => .error node.mismatch

def bool : Reader Bool := fun _ node =>
  match node with
  | .bool value => .ok value
  | node => .error node.mismatch

/-- A signed integer of 64 bits. -/
def int64 : Reader Int64 := fun _ node =>
  match node with
  | .whole value =>
      if Int64.minValue.toInt ≤ value ∧ value ≤ Int64.maxValue.toInt then .ok (Int64.ofInt value)
      else .error .invalidValue
  | node => .error node.mismatch

/-- A natural number of 64 bits. -/
def natural : Reader Nat := fun _ node =>
  match node with
  | .whole value => if 0 ≤ value then .ok value.toNat else .error .invalidValue
  | node => .error node.mismatch

/-- A value or null. -/
def optional {α : Type} (read : Reader α) : Reader (Option α) := fun reading node =>
  match node with
  | .null => .ok none
  | node => (read reading node).map some

def items {α : Type} (read : Reader α) (reading : Reading) :
    List Node → Except DecodeError (List α)
  | [] => .ok []
  | item :: rest => do
      let value ← read reading item
      let values ← items read reading rest
      .ok (value :: values)

def list {α : Type} (read : Reader α) : Reader (List α) := fun reading node =>
  match node with
  | .array nodes closed => do
      let inner ← reading.enter
      let values ← items read inner nodes
      if closed then .ok values else .error .malformed
  | node => .error node.mismatch

/-- Reads a whole text, behind which only white space may stand. -/
def decode {α : Type} (read : Reader α) (symbols : List Symbol) : Except DecodeError α := do
  let result := Scanner.scan symbols
  let value ← read (.text 0) result.node
  if result.clean then .ok value else .error .malformed

def decodeText {α : Type} (read : Reader α) (text : String) : Except DecodeError α :=
  decode read (Symbol.ofString text)

end Reader

namespace Json

/-- Reads any JSON text. -/
def parse (text : String) : Except DecodeError Json :=
  Reader.decodeText (fun reading node => node.readJson reading) text

end Json

end Audience
