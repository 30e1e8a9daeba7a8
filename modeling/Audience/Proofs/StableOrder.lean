import Audience.Content.Tree

namespace Audience

/-! Stable sorting by a 64-bit key.

A stable order is told by two facts: keys ascend, and the items of each key stand as they stood
before.  They leave no choice, so any two such orders of the same items are equal.
-/

/-- The items in ascending order of a key; items of one key keep their order. -/
structure StableOrder {α : Type} (key : α → Int64) (items sorted : List α) : Prop where
  permutation : sorted.Perm items
  ascending : sorted.Pairwise fun first second => key first ≤ key second
  ties : ∀ value, sorted.filter (key · == value) = items.filter (key · == value)

namespace StableOrder

variable {α : Type} {key : α → Int64}

/-- Sorting by merging only moves an item behind items of smaller keys. -/
theorem mergeSort (key : α → Int64) (items : List α) :
    StableOrder key items
      (items.mergeSort fun first second => decide (key first ≤ key second)) := by
  have transitive : ∀ first second third : α, decide (key first ≤ key second) →
      decide (key second ≤ key third) → decide (key first ≤ key third) := by
    intro first second third low high
    exact decide_eq_true (Int64.le_trans (of_decide_eq_true low) (of_decide_eq_true high))
  have total : ∀ first second : α,
      decide (key first ≤ key second) || decide (key second ≤ key first) := by
    intro first second
    simpa using Int64.le_total (key first) (key second)
  have permutation := List.mergeSort_perm items fun first second => decide (key first ≤ key second)
  refine ⟨permutation, ?_, fun value => ?_⟩
  · have sorted := List.pairwise_mergeSort transitive total items
    simpa only [decide_eq_true_eq] using sorted
  · have level : (items.filter (key · == value)).Pairwise
        fun first second => decide (key first ≤ key second) := by
      refine List.Pairwise.imp_of_mem (R := fun _ _ => True) ?_ (List.pairwise_of_forall (by simp))
      intro first second firstMember secondMember _
      have firstKey := eq_of_beq (List.mem_filter.mp firstMember).2
      have secondKey := eq_of_beq (List.mem_filter.mp secondMember).2
      simp [firstKey, secondKey]
    have kept := List.sublist_mergeSort transitive total level List.filter_sublist
    have inside := kept.filter (key · == value)
    simp only [List.filter_filter, Bool.and_self] at inside
    exact (inside.eq_of_length (permutation.filter _).length_eq.symm).symm

/-- Leaving items out of a stable order is a stable order of the items left. -/
theorem filter {items sorted : List α} (order : StableOrder key items sorted)
    (keep : α → Bool) : StableOrder key (items.filter keep) (sorted.filter keep) where
  permutation := order.permutation.filter keep
  ascending := order.ascending.filter keep
  ties := by
    intro value
    have swap : ∀ list : List α, (list.filter keep).filter (key · == value) =
        (list.filter (key · == value)).filter keep := by
      intro list
      simp only [List.filter_filter, Bool.and_comm]
    rw [swap, swap, order.ties value]

theorem mem_of_ties {first second : List α} {item : α}
    (ties : ∀ value, first.filter (key · == value) = second.filter (key · == value))
    (member : item ∈ first) : item ∈ second := by
  have kept : item ∈ first.filter (key · == key item) :=
    List.mem_filter.mpr ⟨member, beq_self_eq_true (key item)⟩
  rw [ties] at kept
  exact (List.mem_filter.mp kept).1

/-- The first item of an ascending list has the least key, so two ascending lists with the same
items of each key begin alike; the rest follows by induction. -/
theorem eq_of_ties {first second : List α}
    (firstAscends : first.Pairwise fun left right => key left ≤ key right)
    (secondAscends : second.Pairwise fun left right => key left ≤ key right)
    (ties : ∀ value, first.filter (key · == value) = second.filter (key · == value)) :
    first = second := by
  induction first generalizing second with
  | nil =>
      refine (List.eq_nil_iff_forall_not_mem.mpr fun item member => ?_).symm
      exact List.not_mem_nil (mem_of_ties (fun value => (ties value).symm) member)
  | cons head rest ih =>
      cases second with
      | nil => exact absurd (mem_of_ties ties List.mem_cons_self) List.not_mem_nil
      | cons other others =>
          obtain ⟨headLeast, restAscends⟩ := List.pairwise_cons.mp firstAscends
          obtain ⟨otherLeast, othersAscend⟩ := List.pairwise_cons.mp secondAscends
          have above : key head ≤ key other := by
            rcases List.mem_cons.mp (mem_of_ties (fun value => (ties value).symm)
              (List.mem_cons_self (a := other) (l := others))) with same | later
            · exact same ▸ Int64.le_refl _
            · exact headLeast other later
          have below : key other ≤ key head := by
            rcases List.mem_cons.mp (mem_of_ties ties
              (List.mem_cons_self (a := head) (l := rest))) with same | later
            · exact same ▸ Int64.le_refl _
            · exact otherLeast head later
          have sameKey : key other = key head := Int64.le_antisymm below above
          have least := ties (key head)
          simp only [List.filter_cons, sameKey, beq_self_eq_true, if_true, List.cons.injEq] at least
          obtain ⟨rfl, _⟩ := least
          have restTies : ∀ value,
              rest.filter (key · == value) = others.filter (key · == value) := by
            intro value
            have whole := ties value
            simp only [List.filter_cons] at whole
            split at whole
            · exact (List.cons.inj whole).2
            · exact whole
          rw [ih restAscends othersAscend restTies]

/-- Only one list is a stable order of given items. -/
theorem unique {items first second : List α} (firstOrder : StableOrder key items first)
    (secondOrder : StableOrder key items second) : first = second :=
  eq_of_ties firstOrder.ascending secondOrder.ascending fun value =>
    (firstOrder.ties value).trans (secondOrder.ties value).symm

end StableOrder

end Audience
