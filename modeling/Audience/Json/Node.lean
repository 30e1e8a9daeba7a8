import Audience.Json.Basic
import Audience.Number.Reading

namespace Audience

/-! JSON values as they stand in a text that may be faulty.

A text is not rejected when it is scanned, because what a reader reports depends on what it wants
where the fault stands.  So the scanned value keeps the place of a fault: a value that could not
be scanned, a container that does not end, or a value that may be passed over but not read.
-/

inductive Node where
  | null
  | bool (value : Bool)
  | whole (value : Int)
  | real (value : Number)
  | string (value : String)
  /-- Well-formed, but no value: a string whose escapes or bytes make no text, or a number that is
  too large. -/
  | unreadable
  /-- The items in front of the first fault; `closed` when there is none. -/
  | array (items : List Node) (closed : Bool)
  /-- The fields in front of the first fault; a key that makes no text is missing. -/
  | object (fields : List (Option String × Node)) (closed : Bool)
  /-- No value could be scanned. -/
  | fault
deriving Repr

namespace Node

/-- The value of a numeral: an integer if it is one of 64 bits, else a number. -/
def ofNumeral (numeral : Numeral) : Node :=
  match numeral.toInteger? with
  | some value => .whole value
  | none =>
      match numeral.toNumber? with
      | some value => .real value
      | none => .unreadable

mutual

/-- Whether a value has no fault in its form, at any depth. -/
def wellFormed : Node → Bool
  | fault => false
  | array items closed => closed && itemsWellFormed items
  | object fields closed => closed && fieldsWellFormed fields
  | _ => true

def itemsWellFormed : List Node → Bool
  | [] => true
  | item :: rest => item.wellFormed && itemsWellFormed rest

def fieldsWellFormed : List (Option String × Node) → Bool
  | [] => true
  | (_, value) :: rest => value.wellFormed && fieldsWellFormed rest

end

mutual

/-- The node that a document is scanned as. -/
def ofJson : Json → Node
  | .null => null
  | .bool value => bool value
  | .whole value => whole value
  | .real value => real value
  | .string value => string value
  | .array items => array (ofItems items) true
  | .object fields => object (ofFields fields) true

def ofItems : List Json → List Node
  | [] => []
  | item :: rest => ofJson item :: ofItems rest

def ofFields : List (String × Json) → List (Option String × Node)
  | [] => []
  | (key, value) :: rest => (some key, ofJson value) :: ofFields rest

end

end Node

end Audience
