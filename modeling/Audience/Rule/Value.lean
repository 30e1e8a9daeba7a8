import Audience.Json.Decode
import Audience.Sorted

namespace Audience

/-! Values that rules are configured with.

A value is plain JSON with one kind of number and with maps whose keys ascend.  Each kind of rule
looks at it through the views below and says for itself what another shape means.
-/

inductive Value where
  | null
  | bool (value : Bool)
  | number (value : Number)
  | text (value : String)
  | list (items : List Value)
  | map (entries : List (String × Value))
deriving Repr, BEq

namespace Value

def bool? : Value → Option Bool
  | bool value => some value
  | _ => none

def number? : Value → Option Number
  | number value => some value
  | _ => none

def text? : Value → Option String
  | text value => some value
  | _ => none

def list? : Value → Option (List Value)
  | list items => some items
  | _ => none

def map? : Value → Option (List (String × Value))
  | map entries => some entries
  | _ => none

/-- The value of a key, if the value is a map that has it. -/
def get? (value : Value) (key : String) : Option Value :=
  value.map?.bind (Sorted.lookup key)

def isNull : Value → Bool
  | null => true
  | _ => false

/-- The name of a value's shape. -/
def shape : Value → String
  | null => "null"
  | bool _ => "bool"
  | number _ => "number"
  | text _ => "string"
  | list _ => "list"
  | map _ => "map"

mutual

/-- At every depth the keys of maps ascend. -/
def Ordered : Value → Prop
  | list items => OrderedItems items
  | map entries => Sorted.Ascending entries ∧ OrderedEntries entries
  | _ => True

def OrderedItems : List Value → Prop
  | [] => True
  | item :: rest => Ordered item ∧ OrderedItems rest

def OrderedEntries : List (String × Value) → Prop
  | [] => True
  | (_, value) :: rest => Ordered value ∧ OrderedEntries rest

end

/-- Entries as they are read: the last with a key counts. -/
def settle (entries : List (String × Value)) : List (String × Value) :=
  entries.foldl (fun settled entry => Sorted.insertKey entry.1 entry.2 settled) []

mutual

/-- Reads a value. -/
def read (reading : Reading) : Node → Except DecodeError Value
  | .null => .ok null
  | .bool value => .ok (bool value)
  | .whole value => .ok (number (.ofInt value))
  | .real value => .ok (number value)
  | .string value => .ok (text value)
  | .array nodes closed => do
      let inner ← reading.enter
      let items ← readItems inner nodes
      if closed then .ok (list items) else .error .malformed
  | .object nodes closed => do
      let inner ← reading.enter
      let entries ← readEntries inner nodes
      if closed then .ok (map (settle entries)) else .error .malformed
  | _ => .error .malformed

def readItems (reading : Reading) : List Node → Except DecodeError (List Value)
  | [] => .ok []
  | node :: rest => do
      let item ← read reading node
      let items ← readItems reading rest
      .ok (item :: items)

def readEntries (reading : Reading) :
    List (Option String × Node) → Except DecodeError (List (String × Value))
  | [] => .ok []
  | (some key, node) :: rest => do
      let value ← read reading node
      let entries ← readEntries reading rest
      .ok ((key, value) :: entries)
  | (none, _) :: _ => .error .malformed

end

def reader : Reader Value := fun reading node => read reading node

def ofText (source : String) : Except DecodeError Value :=
  reader.decodeText source

mutual

/-- The value of a JSON document; of the fields with a key the last counts. -/
def ofJson : Json → Value
  | .null => null
  | .bool value => bool value
  | .whole value => number (.ofInt value)
  | .real value => number value
  | .string value => text value
  | .array items => list (ofItems items)
  | .object fields => map (settle (ofFields fields))

def ofItems : List Json → List Value
  | [] => []
  | item :: rest => ofJson item :: ofItems rest

def ofFields : List (String × Json) → List (String × Value)
  | [] => []
  | (key, value) :: rest => (key, ofJson value) :: ofFields rest

end

mutual

/-- The document that a value is written as. -/
def toJson : Value → Json
  | null => .null
  | bool value => .bool value
  | number value => .real value
  | text value => .string value
  | list items => .array (itemsToJson items)
  | map entries => .object (entriesToJson entries)

def itemsToJson : List Value → List Json
  | [] => []
  | item :: rest => toJson item :: itemsToJson rest

def entriesToJson : List (String × Value) → List (String × Json)
  | [] => []
  | (key, value) :: rest => (key, toJson value) :: entriesToJson rest

end

end Value

end Audience
