import Audience.Content.Tree

namespace Audience

/-! What a caller sees of a content tree. -/

/-- The names of visible UI items under the names of their content items, in the order of the
tree. -/
structure View where
  entries : List (String × List String)
deriving Repr, DecidableEq

namespace View

def empty : View := ⟨[]⟩

def get? (view : View) (name : String) : Option (List String) :=
  (view.entries.find? fun entry => entry.1 == name).map Prod.snd

def contains (view : View) (name : String) : Bool :=
  (view.get? name).isSome

def names (view : View) : List String :=
  view.entries.map Prod.fst

def size (view : View) : Nat :=
  view.entries.length

/-- Replaces the items of a name where it stands, or adds the name at the end. -/
def putEntry (name : String) (items : List String) :
    List (String × List String) → List (String × List String)
  | [] => [(name, items)]
  | entry :: rest =>
      if entry.1 = name then (name, items) :: rest else entry :: putEntry name items rest

def put (view : View) (name : String) (items : List String) : View :=
  ⟨putEntry name items view.entries⟩

def toJson (view : View) : Json :=
  .object (view.entries.map fun (name, items) => (name, .strings items))

/-- A name keeps its place when its items are replaced; a new name comes last. -/
theorem names_put (view : View) (name : String) (items : List String) :
    (view.put name items).names = if name ∈ view.names then view.names else view.names ++ [name] := by
  obtain ⟨entries⟩ := view
  simp only [put, names]
  induction entries with
  | nil => simp [putEntry]
  | cons entry rest ih =>
      by_cases same : entry.1 = name
      · simp [putEntry, same]
      · have other : name ≠ entry.1 := Ne.symm same
        simp only [putEntry, if_neg same, List.map_cons, List.mem_cons, other, false_or, ih]
        by_cases known : name ∈ rest.map Prod.fst <;> simp [known]

@[simp] theorem get?_put (view : View) (name other : String) (items : List String) :
    (view.put name items).get? other = if other = name then some items else view.get? other := by
  obtain ⟨entries⟩ := view
  simp only [put, get?]
  induction entries with
  | nil => by_cases same : other = name <;> simp [putEntry, same, Ne.symm]
  | cons entry rest ih =>
      by_cases replaced : entry.1 = name
      · by_cases same : other = name
        · simp [putEntry, replaced, same]
        · simp [putEntry, replaced, same, Ne.symm same]
      · by_cases found : entry.1 = other
        · have different : other ≠ name := fun same => replaced (found.trans same)
          simp [putEntry, found, different]
        · simp only [putEntry, if_neg replaced, List.find?_cons, beq_eq_false_iff_ne.mpr found]
          exact ih

theorem distinct_put {view : View} (distinct : view.names.Nodup) (name : String)
    (items : List String) : (view.put name items).names.Nodup := by
  rw [names_put]
  split
  next => exact distinct
  next fresh =>
    refine List.nodup_append.mpr ⟨distinct, by simp, ?_⟩
    intro other member last lastMember same
    rw [List.mem_singleton.mp lastMember] at same
    exact fresh (same ▸ member)

theorem get?_eq_some_iff {view : View} (distinct : view.names.Nodup) {name : String}
    {items : List String} : view.get? name = some items ↔ (name, items) ∈ view.entries := by
  obtain ⟨entries⟩ := view
  simp only [names, get?] at distinct ⊢
  induction entries with
  | nil => simp
  | cons entry rest ih =>
      obtain ⟨fresh, restDistinct⟩ := List.nodup_cons.mp distinct
      by_cases found : entry.1 = name
      · have absent : (name, items) ∉ rest := fun member =>
          fresh (List.mem_map.mpr ⟨_, member, found.symm⟩)
        simp [found, absent, Prod.ext_iff, eq_comm]
      · have other : (name, items) ≠ entry := fun same => found (by rw [← same])
        simp only [List.find?_cons, beq_eq_false_iff_ne.mpr found, List.mem_cons, other, false_or]
        exact ih restDistinct

theorem contains_iff {view : View} {name : String} :
    view.contains name = true ↔ name ∈ view.names := by
  simp [contains, get?, names, List.find?_isSome]

end View

/-- The names of the UI items that a caller sees of a content item, in ascending order; items of
equal order stay as they are stored. -/
def ContentItem.visibleNames (item : ContentItem) (caller : Caller) : List String :=
  let sorted := item.uiItems.mergeSort fun first second => decide (first.order ≤ second.order)
  (sorted.filter (·.isVisible caller)).map UiItem.name

/-- Adds a content item to a view, unless nothing of it is visible. -/
def View.add (caller : Caller) (view : View) (item : ContentItem) : View :=
  let visible := item.visibleNames caller
  if visible.isEmpty then view else view.put item.name visible

/-- What a caller sees of a tree.  Of content items with one name the last visible one counts, at
the place of the first. -/
def ContentTree.assemble (tree : ContentTree) (caller : Caller) : View :=
  tree.items.foldl (View.add caller) View.empty

end Audience
