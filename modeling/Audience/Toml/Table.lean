import Audience.Toml.Basic

namespace Audience

namespace Toml

/-! Tables as they are built up by headers and dotted keys.

How a table came to be decides what may still be added to it: a header opens a table once, a
dotted key reaches into tables that dotted keys made, and nothing reaches into a value.
-/

inductive Origin where
  /-- Opened by a header. -/
  | header
  /-- Passed through by the header of a table inside it. -/
  | passed
  /-- Made by a dotted key. -/
  | dotted
deriving Repr, DecidableEq

inductive Item where
  | value (value : Value)
  | table (origin : Origin) (entries : List (String × Item))
  /-- The tables that headers in double brackets opened, the last first. -/
  | tables (tables : List (List (String × Item)))

abbrev Entries := List (String × Item)

namespace Entries

def get? (key : String) (entries : Entries) : Option Item :=
  (entries.find? fun entry => entry.1 == key).map Prod.snd

/-- Sets the item of a key, where it stands or at the end. -/
def set (key : String) (item : Item) : Entries → Entries
  | [] => [(key, item)]
  | entry :: rest => if entry.1 == key then (key, item) :: rest else entry :: set key item rest

/-- Changes the table at the end of a path, which is made where there is none yet. -/
def modifyAt (byKey : Bool) (change : Origin → Entries → Option Entries) :
    List String → Origin → Entries → Option Entries
  | [], origin, entries => change origin entries
  | key :: path, _, entries =>
      match entries.get? key with
      | none => do
          let origin := if byKey then .dotted else .passed
          let inner ← modifyAt byKey change path origin []
          some (entries.set key (.table origin inner))
      | some (.value _) | some (.tables []) => none
      | some (.tables (last :: others)) => do
          let inner ← modifyAt byKey change path .header last
          some (entries.set key (.tables (inner :: others)))
      | some (.table origin old) =>
          if byKey ∧ origin = .header then none
          else do
            let inner ← modifyAt byKey change path origin old
            some (entries.set key (.table origin inner))

/-- Adds a value under a key with a path of dotted parts before it. -/
def addValue (path : List String) (key : String) (value : Value) (origin : Origin)
    (entries : Entries) : Option Entries :=
  modifyAt true
    (fun origin entries =>
      if decide (origin = .dotted) == path.isEmpty then none
      else if (entries.get? key).isSome then none
      else some (entries.set key (.value value)))
    path origin entries

/-- Opens a table for a header. -/
def openTable (key : String) (entries : Entries) : Option Entries :=
  match entries.get? key with
  | none => some (entries.set key (.table .header []))
  | some (.table .passed inner) => some (entries.set key (.table .header inner))
  | some _ => none

/-- Opens one more table for a header in double brackets. -/
def openNext (key : String) (entries : Entries) : Option Entries :=
  match entries.get? key with
  | none => some (entries.set key (.tables [[]]))
  | some (.tables others) => some (entries.set key (.tables ([] :: others)))
  | some _ => none

end Entries

mutual

def Item.toValue : Item → Value
  | .value value => value
  | .table _ entries => .table (Entries.toValues entries)
  | .tables tables => .array (Entries.toTables tables).reverse

def Entries.toValues : List (String × Item) → List (String × Value)
  | [] => []
  | (key, item) :: rest => (key, item.toValue) :: Entries.toValues rest

def Entries.toTables : List (List (String × Item)) → List Value
  | [] => []
  | entries :: rest => .table (Entries.toValues entries) :: Entries.toTables rest

end

end Toml

end Audience
