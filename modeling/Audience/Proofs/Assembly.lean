import Mathlib.Data.List.Induction
import Audience.Content.View
import Audience.Proofs.StableOrder

namespace Audience

/-! What a caller sees of a content tree, told without the order in which it is put together.

Only content items count of which something is visible.  `ContentTree.Describes` says which names
stand in a view and what stands under them; exactly one view is described.
-/

/-- A content item is live for a caller when all rules of one of its UI items let them. -/
def ContentItem.isLive (item : ContentItem) (caller : Caller) : Bool :=
  item.uiItems.any fun uiItem => uiItem.rules.all fun rule => rule.lets caller

/-- The names are those of the visible UI items in ascending order, ties as they are stored. -/
def ContentItem.Shows (item : ContentItem) (caller : Caller) (names : List String) : Prop :=
  ∃ shown, StableOrder UiItem.order (item.uiItems.filter (·.isVisible caller)) shown ∧
    names = shown.map UiItem.name

namespace ContentTree

def live (tree : ContentTree) (caller : Caller) : List ContentItem :=
  tree.items.filter (·.isLive caller)

/-- The last live content item of a name. -/
def lastLive? (tree : ContentTree) (caller : Caller) (name : String) : Option ContentItem :=
  ((tree.live caller).filter (·.name == name)).getLast?

/-- What the view of a caller is to be. -/
structure Describes (tree : ContentTree) (caller : Caller) (view : View) : Prop where
  /-- Each live name stands once, in the order of the first live content item with it. -/
  names : view.names = ((tree.live caller).map ContentItem.name).eraseDups
  /-- Under a name stands what the last live content item with it shows. -/
  entry : ∀ name items, (name, items) ∈ view.entries →
    ∃ item, tree.lastLive? caller name = some item ∧ item.Shows caller items
  nonempty : ∀ entry ∈ view.entries, entry.2 ≠ []
  distinct : view.names.Nodup
  get? : ∀ name items, view.get? name = some items ↔
    ∃ item, tree.lastLive? caller name = some item ∧ item.Shows caller items
  contains : ∀ name, view.contains name = true ↔
    ∃ item ∈ tree.items, item.isLive caller = true ∧ item.name = name
  size : view.size = ((tree.live caller).map ContentItem.name).eraseDups.length

end ContentTree

namespace ContentItem

variable {item : ContentItem} {caller : Caller} {names : List String}

theorem stableOrder_visible (item : ContentItem) (caller : Caller) :
    StableOrder UiItem.order (item.uiItems.filter (·.isVisible caller))
      ((item.uiItems.mergeSort fun first second => decide (first.order ≤ second.order)).filter
        (·.isVisible caller)) :=
  (StableOrder.mergeSort UiItem.order item.uiItems).filter (·.isVisible caller)

theorem shows_iff : item.Shows caller names ↔ names = item.visibleNames caller := by
  constructor
  · intro shows
    obtain ⟨shown, order, rfl⟩ := shows
    rw [order.unique (item.stableOrder_visible caller)]
    rfl
  · intro same
    subst same
    exact ⟨_, item.stableOrder_visible caller, rfl⟩

/-- Sorting loses no item, so something is visible exactly when the content item is live. -/
theorem visibleNames_isEmpty (item : ContentItem) (caller : Caller) :
    (item.visibleNames caller).isEmpty = !item.isLive caller := by
  have length := (item.stableOrder_visible caller).permutation.length_eq
  rw [Bool.eq_iff_iff]
  simp only [visibleNames, isLive, List.isEmpty_map, List.isEmpty_iff_length_eq_zero, length]
  simp [List.filter_eq_nil_iff, UiItem.isVisible]

theorem visibleNames_ne_nil (live : item.isLive caller = true) : item.visibleNames caller ≠ [] := by
  have empty := item.visibleNames_isEmpty caller
  intro none
  simp [none, live] at empty

end ContentItem

namespace View

variable {caller : Caller}

/-- The view that content items leave when each is put under its name in turn. -/
def ofItems (caller : Caller) (items : List ContentItem) : View :=
  items.foldl (fun view item => view.put item.name (item.visibleNames caller)) empty

theorem ofItems_append_singleton (items : List ContentItem) (item : ContentItem) :
    ofItems caller (items ++ [item]) =
      (ofItems caller items).put item.name (item.visibleNames caller) := by
  simp [ofItems]

theorem distinct_ofItems (items : List ContentItem) : (ofItems caller items).names.Nodup := by
  induction items using List.reverseRecOn with
  | nil => exact List.nodup_nil
  | append_singleton items item ih =>
      rw [ofItems_append_singleton]
      exact distinct_put ih item.name (item.visibleNames caller)

theorem names_ofItems (items : List ContentItem) :
    (ofItems caller items).names = (items.map ContentItem.name).eraseDups := by
  -- From the end: the last content item is put into what all earlier ones have left.
  induction items using List.reverseRecOn with
  | nil => rfl
  | append_singleton items item ih =>
      rw [ofItems_append_singleton, names_put, ih, List.map_append, List.eraseDups_append]
      generalize items.map ContentItem.name = earlier
      by_cases known : item.name ∈ earlier
      · simp [List.removeAll, List.mem_eraseDups, known]
      · simp [List.removeAll, List.mem_eraseDups, known, List.eraseDups_cons]

/-- Later content items replace what earlier ones of their name have left. -/
theorem get?_ofItems (items : List ContentItem) (name : String) :
    (ofItems caller items).get? name =
      ((items.filter (·.name == name)).getLast?).map (·.visibleNames caller) := by
  induction items using List.reverseRecOn with
  | nil => rfl
  | append_singleton items item ih =>
      rw [ofItems_append_singleton, get?_put, ih, List.filter_append, List.getLast?_append]
      by_cases same : item.name = name
      · simp [same]
      · simp [same, Ne.symm same]

/-- The entries are known from the names and from what stands under each. -/
theorem entries_eq_map {view : View} {under : String → List String}
    (entry : ∀ name items, (name, items) ∈ view.entries → items = under name) :
    view.entries = view.names.map fun name => (name, under name) := by
  rw [names, List.map_map]
  refine (List.map_id view.entries).symm.trans (List.map_congr_left fun pair member => ?_)
  exact Prod.ext rfl (entry pair.1 pair.2 member)

end View

namespace ContentTree

/-- Content items of which nothing is visible leave no trace in a view. -/
theorem assemble_eq_ofItems (tree : ContentTree) (caller : Caller) :
    tree.assemble caller = View.ofItems caller (tree.live caller) := by
  rw [assemble, View.ofItems, live, List.foldl_filter]
  congr 1
  funext view item
  simp only [View.add, ContentItem.visibleNames_isEmpty]
  cases item.isLive caller <;> rfl

theorem get?_assemble (tree : ContentTree) (caller : Caller) (name : String) :
    (tree.assemble caller).get? name =
      (tree.lastLive? caller name).map (·.visibleNames caller) := by
  rw [assemble_eq_ofItems, View.get?_ofItems, lastLive?]

theorem names_assemble (tree : ContentTree) (caller : Caller) :
    (tree.assemble caller).names = ((tree.live caller).map ContentItem.name).eraseDups := by
  rw [assemble_eq_ofItems, View.names_ofItems]

theorem distinct_assemble (tree : ContentTree) (caller : Caller) :
    (tree.assemble caller).names.Nodup := by
  rw [assemble_eq_ofItems]
  exact View.distinct_ofItems (tree.live caller)

theorem get?_assemble_eq_some_iff {tree : ContentTree} {caller : Caller} {name : String}
    {items : List String} : (tree.assemble caller).get? name = some items ↔
      ∃ item, tree.lastLive? caller name = some item ∧ item.Shows caller items := by
  simp only [get?_assemble, Option.map_eq_some_iff, ContentItem.shows_iff, eq_comm (a := items)]

theorem isLive_of_lastLive? {tree : ContentTree} {caller : Caller} {name : String}
    {item : ContentItem} (last : tree.lastLive? caller name = some item) :
    item.isLive caller = true := by
  have member := (List.mem_filter.mp (List.mem_of_getLast? last)).1
  exact (List.mem_filter.mp member).2

theorem describes_assemble (tree : ContentTree) (caller : Caller) :
    tree.Describes caller (tree.assemble caller) := by
  have distinct := tree.distinct_assemble caller
  have entry : ∀ name items, (name, items) ∈ (tree.assemble caller).entries →
      ∃ item, tree.lastLive? caller name = some item ∧ item.Shows caller items :=
    fun name items member => get?_assemble_eq_some_iff.mp
      ((View.get?_eq_some_iff distinct).mpr member)
  refine
    { names := tree.names_assemble caller
      entry
      nonempty := ?_
      distinct
      get? := fun name items => get?_assemble_eq_some_iff
      contains := ?_
      size := ?_ }
  · intro pair member
    obtain ⟨name, items⟩ := pair
    obtain ⟨item, last, shows⟩ := entry name items member
    rw [ContentItem.shows_iff.mp shows]
    exact ContentItem.visibleNames_ne_nil (isLive_of_lastLive? last)
  · intro name
    rw [View.contains_iff, names_assemble, List.mem_eraseDups]
    simp only [live, List.mem_map, List.mem_filter, and_assoc]
  · rw [← names_assemble, View.names, List.length_map, View.size]

/-- No two views are described for one caller. -/
theorem Describes.unique {tree : ContentTree} {caller : Caller} {first second : View}
    (firstDescribed : tree.Describes caller first)
    (secondDescribed : tree.Describes caller second) : first = second := by
  let under (name : String) : List String :=
    ((tree.lastLive? caller name).map (·.visibleNames caller)).getD []
  have entries : ∀ view, tree.Describes caller view →
      view.entries = view.names.map fun name => (name, under name) := by
    intro view described
    refine View.entries_eq_map fun name items member => ?_
    obtain ⟨item, last, shows⟩ := described.entry name items member
    simp [under, last, ContentItem.shows_iff.mp shows]
  have sameEntries : first.entries = second.entries := by
    rw [entries first firstDescribed, entries second secondDescribed, firstDescribed.names,
      secondDescribed.names]
  exact congrArg View.mk sameEntries

/-- Assembling gives the one view that is described. -/
theorem describes_iff_eq_assemble (tree : ContentTree) (caller : Caller) (view : View) :
    tree.Describes caller view ↔ view = tree.assemble caller := by
  constructor
  · intro described
    exact described.unique (tree.describes_assemble caller)
  · intro same
    subst same
    exact tree.describes_assemble caller

end ContentTree

end Audience
