namespace Audience

/-! Maps and sets whose keys stand in ascending order, one entry for a key.

Equal maps have equal entries, and a listing of a map is in the order of its keys.
-/

namespace Sorted

/-- Sets the value of a key in entries with ascending keys. -/
def insertKey {α : Type} (key : String) (value : α) : List (String × α) → List (String × α)
  | [] => [(key, value)]
  | entry :: rest =>
      if key < entry.1 then (key, value) :: entry :: rest
      else if key = entry.1 then (key, value) :: rest
      else entry :: insertKey key value rest

def lookup {α : Type} (key : String) : List (String × α) → Option α
  | [] => none
  | entry :: rest => if key = entry.1 then some entry.2 else lookup key rest

/-- The keys ascend, so none stands twice. -/
def Ascending {α : Type} (entries : List (String × α)) : Prop :=
  entries.Pairwise fun first second => first.1 < second.1

theorem mem_insertKey {α : Type} {key : String} {value : α} {entries : List (String × α)}
    {entry : String × α} (member : entry ∈ insertKey key value entries) :
    entry = (key, value) ∨ entry ∈ entries := by
  induction entries with
  | nil => simpa [insertKey] using member
  | cons head rest ih =>
      simp only [insertKey] at member
      split at member
      · simpa using member
      · split at member
        · rcases List.mem_cons.mp member with rfl | old
          · exact .inl rfl
          · exact .inr (List.mem_cons_of_mem _ old)
        · rcases List.mem_cons.mp member with rfl | old
          · exact .inr List.mem_cons_self
          · exact (ih old).imp_right (List.mem_cons_of_mem _)

theorem Ascending.insertKey {α : Type} {entries : List (String × α)} (ascending : Ascending entries)
    (key : String) (value : α) : Ascending (insertKey key value entries) := by
  induction entries with
  | nil => simp [Sorted.insertKey, Ascending]
  | cons head rest ih =>
      have ⟨below, tail⟩ := List.pairwise_cons.mp ascending
      simp only [Sorted.insertKey]
      split
      next less =>
        refine List.pairwise_cons.mpr ⟨fun entry member => ?_, ascending⟩
        rcases List.mem_cons.mp member with rfl | old
        · exact less
        · exact String.lt_trans less (below entry old)
      next notLess =>
        split
        next same =>
          exact List.pairwise_cons.mpr ⟨fun entry member => same ▸ below entry member, tail⟩
        next different =>
          refine List.pairwise_cons.mpr ⟨fun entry member => ?_, ih tail⟩
          rcases mem_insertKey member with rfl | old
          · exact Std.lt_of_le_of_ne notLess (Ne.symm different)
          · exact below entry old

theorem lookup_insertKey {α : Type} (key other : String) (value : α)
    (entries : List (String × α)) :
    lookup other (insertKey key value entries) =
      if other = key then some value else lookup other entries := by
  induction entries with
  | nil => simp [insertKey, lookup]
  | cons head rest ih =>
      simp only [insertKey]
      split
      · simp [lookup]
      · split
        next same =>
          by_cases found : other = key
          · simp [lookup, found]
          · simp [lookup, found, same ▸ found]
        next different =>
          by_cases found : other = head.1
          · have : other ≠ key := fun equal => different (equal ▸ found)
            simp [lookup, found, found ▸ this]
          · simp [lookup, found, ih]

theorem insertKey_of_above {α : Type} {entries : List (String × α)} {key : String}
    (value : α) (above : ∀ entry ∈ entries, entry.1 < key) :
    insertKey key value entries = entries ++ [(key, value)] := by
  induction entries with
  | nil => rfl
  | cons entry rest ih =>
      obtain ⟨below, others⟩ := List.forall_mem_cons.mp above
      have notBefore : ¬key < entry.1 := String.lt_asymm below
      have different : key ≠ entry.1 := fun same => String.lt_irrefl key (same ▸ below)
      rw [insertKey, if_neg notBefore, if_neg different, ih others, List.cons_append]

/-- Entries that ascend behind smaller ones are inserted as they stand. -/
theorem foldl_insertKey {α : Type} {entries others : List (String × α)}
    (ascending : Ascending (entries ++ others)) :
    others.foldl (fun settled entry => insertKey entry.1 entry.2 settled) entries =
      entries ++ others := by
  induction others generalizing entries with
  | nil => simp
  | cons entry rest ih =>
      have above : ∀ earlier ∈ entries, earlier.1 < entry.1 := fun earlier member =>
        (List.pairwise_append.mp ascending).2.2 earlier member entry List.mem_cons_self
      have inserted : insertKey entry.1 entry.2 entries = entries ++ [entry] :=
        insertKey_of_above entry.2 above
      rw [List.foldl_cons, inserted, ih (by simpa using ascending)]
      simp

theorem isSome_lookup_iff {α : Type} {key : String} {entries : List (String × α)} :
    (lookup key entries).isSome = true ↔ key ∈ entries.map Prod.fst := by
  induction entries with
  | nil => simp [lookup]
  | cons head rest ih => by_cases found : key = head.1 <;> simp [lookup, found, ih]

theorem Ascending.mem_iff_lookup {α : Type} {key : String} {value : α}
    {entries : List (String × α)} (ascending : Ascending entries) :
    (key, value) ∈ entries ↔ lookup key entries = some value := by
  induction entries with
  | nil => simp [lookup]
  | cons head rest ih =>
      have ⟨below, tail⟩ := List.pairwise_cons.mp ascending
      by_cases found : key = head.1
      · subst found
        have absent : (head.1, value) ∉ rest := fun member =>
          String.lt_irrefl head.1 (below (head.1, value) member)
        simp [lookup, absent, Prod.ext_iff, eq_comm]
      · simp [lookup, found, Prod.ext_iff, ih tail]

end Sorted

/-- A map from text to values. -/
structure SortedMap (α : Type) where
  entries : List (String × α)
  ascending : Sorted.Ascending entries
deriving Repr, DecidableEq

namespace SortedMap

variable {α : Type}

def empty : SortedMap α := ⟨[], List.Pairwise.nil⟩

def insert (map : SortedMap α) (key : String) (value : α) : SortedMap α :=
  ⟨Sorted.insertKey key value map.entries, map.ascending.insertKey key value⟩

def get? (map : SortedMap α) (key : String) : Option α :=
  Sorted.lookup key map.entries

def contains (map : SortedMap α) (key : String) : Bool :=
  (map.get? key).isSome

def keys (map : SortedMap α) : List String :=
  map.entries.map Prod.fst

/-- The map of some entries, of which the last with a key counts. -/
def ofList (entries : List (String × α)) : SortedMap α :=
  entries.foldl (fun map entry => map.insert entry.1 entry.2) empty

@[simp] theorem get?_insert (map : SortedMap α) (key other : String) (value : α) :
    (map.insert key value).get? other = if other = key then some value else map.get? other :=
  Sorted.lookup_insertKey key other value map.entries

theorem mem_entries_iff {map : SortedMap α} {key : String} {value : α} :
    (key, value) ∈ map.entries ↔ map.get? key = some value :=
  map.ascending.mem_iff_lookup

@[simp] theorem contains_empty (key : String) : (empty : SortedMap α).contains key = false := rfl

@[simp] theorem contains_insert (map : SortedMap α) (key other : String) (value : α) :
    (map.insert key value).contains other = (decide (other = key) || map.contains other) := by
  by_cases same : other = key <;> simp [contains, same]

end SortedMap

/-- A set of names. -/
structure NameSet where
  map : SortedMap Unit
deriving Repr, DecidableEq

namespace NameSet

def empty : NameSet := ⟨.empty⟩

def insert (set : NameSet) (name : String) : NameSet := ⟨set.map.insert name ()⟩

def contains (set : NameSet) (name : String) : Bool := set.map.contains name

def toList (set : NameSet) : List String := set.map.keys

/-- Adds names to a set. -/
def insertAll (set : NameSet) (names : List String) : NameSet :=
  names.foldl insert set

def ofList (names : List String) : NameSet := empty.insertAll names

theorem mem_toList_iff {set : NameSet} {name : String} :
    name ∈ set.toList ↔ set.contains name = true :=
  Sorted.isSome_lookup_iff.symm

theorem contains_insertAll_iff {set : NameSet} {names : List String} {name : String} :
    (set.insertAll names).contains name = true ↔ name ∈ names ∨ set.contains name = true := by
  induction names generalizing set with
  | nil => simp [insertAll]
  | cons head rest ih =>
      have grown : (set.insertAll (head :: rest)) = (set.insert head).insertAll rest := rfl
      rw [grown, ih, contains, insert, SortedMap.contains_insert]
      simp [contains, or_left_comm, or_assoc]

theorem mem_toList_ofList {names : List String} {name : String} :
    name ∈ (ofList names).toList ↔ name ∈ names := by
  rw [mem_toList_iff, ofList, contains_insertAll_iff]
  simp [contains, empty]

theorem eq_of_entries {first second : NameSet} (same : first.map.entries = second.map.entries) :
    first = second := by
  obtain ⟨⟨entries, ascending⟩⟩ := first
  obtain ⟨⟨others, othersAscending⟩⟩ := second
  cases same
  rfl

theorem entries_insertAll {set : NameSet} {names : List String}
    (ascending : Sorted.Ascending (set.map.entries ++ names.map fun name => (name, ()))) :
    (set.insertAll names).map.entries =
      set.map.entries ++ names.map fun name => (name, ()) := by
  have inserted (names : List String) (set : NameSet) : (set.insertAll names).map.entries =
      (names.map fun name => (name, ())).foldl
        (fun settled entry => Sorted.insertKey entry.1 entry.2 settled) set.map.entries := by
    induction names generalizing set with
    | nil => rfl
    | cons name rest ih => exact ih (set.insert name)
  rw [inserted, Sorted.foldl_insertKey ascending]

/-- The names of a set, one after the other, make the set. -/
theorem ofList_toList (set : NameSet) : ofList set.toList = set := by
  have names : set.toList.map (fun name => (name, ())) = set.map.entries := by
    simp [toList, SortedMap.keys, Function.comp_def]
  have ascending :
      Sorted.Ascending (empty.map.entries ++ set.toList.map fun name => (name, ())) := by
    rw [names]
    exact set.map.ascending
  exact eq_of_entries ((entries_insertAll ascending).trans names)

end NameSet

end Audience
