import Audience.Json.Basic
import Audience.Sorted

namespace Audience

namespace Json

/-! Documents as maps: the fields of an object in ascending order, the last of a name alone. -/

mutual

def sorted : Json → Json
  | array items => array (sortedItems items)
  | object fields => object (SortedMap.ofList (sortedFields fields)).entries
  | document => document

def sortedItems : List Json → List Json
  | [] => []
  | item :: rest => item.sorted :: sortedItems rest

def sortedFields : List (String × Json) → List (String × Json)
  | [] => []
  | (key, value) :: rest => (key, value.sorted) :: sortedFields rest

end

end Json

end Audience
