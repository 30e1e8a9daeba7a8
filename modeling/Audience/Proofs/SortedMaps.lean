import Mathlib.Data.List.Induction
import Mathlib.Data.List.Sort
import Audience.Sorted

namespace Audience

/-! Sorted maps, known by their look-ups and by the entries they are made of.

Of the entries with one key the last counts.  Where no key comes twice nothing is replaced, so the
map has all the entries and only their order may change.
-/

namespace Sorted

variable {α β : Type} {key : String} {value : α} {entry : String × α}
  {entries : List (String × α)}

/-- No other value of the key comes behind this one. -/
def LastWith (key : String) (value : α) (entries : List (String × α)) : Prop :=
  ∃ before after, entries = before ++ (key, value) :: after ∧ key ∉ after.map Prod.fst

theorem LastWith.mem (last : LastWith key value entries) : (key, value) ∈ entries := by
  obtain ⟨before, after, rfl, _⟩ := last
  simp

theorem not_lastWith_nil : ¬LastWith key value [] := by
  rintro ⟨before, after, parts, _⟩
  simp at parts

theorem lastWith_concat_iff : LastWith key value (entries ++ [entry]) ↔
    entry = (key, value) ∨ entry.1 ≠ key ∧ LastWith key value entries := by
  constructor
  · rintro ⟨before, after, parts, others⟩
    cases after using List.reverseRecOn with
    | nil =>
        have ends := (List.append_inj' parts rfl).2
        exact .inl (List.singleton_inj.mp ends)
    | append_singleton after last =>
        rw [← List.cons_append, ← List.append_assoc] at parts
        obtain ⟨front, ends⟩ := List.append_inj' parts rfl
        cases List.singleton_inj.mp ends
        simp only [List.map_append, List.mem_append, not_or] at others
        exact .inr ⟨by simpa [eq_comm] using others.2, before, after, front, others.1⟩
  · rintro (rfl | ⟨different, before, after, rfl, others⟩)
    · exact ⟨entries, [], rfl, by simp⟩
    · exact ⟨before, after ++ [entry], by simp, by simpa [Ne.symm different] using others⟩

theorem lookup_filter_ne (key other : String) (entries : List (String × α)) :
    lookup other (entries.filter fun entry => entry.1 ≠ key) =
      if other = key then none else lookup other entries := by
  induction entries with
  | nil => simp [lookup]
  | cons entry rest ih =>
      rw [List.filter_cons, lookup]
      by_cases removed : entry.1 = key
      · rw [if_neg (by simp [removed]), ih, removed]
        by_cases same : other = key <;> simp [same]
      · rw [if_pos (by simpa using removed), lookup, ih]
        by_cases found : other = entry.1 <;> simp [found, removed]

/-- Keys that ascend leave the entries one order only. -/
theorem Ascending.eq_of_mem_iff {others : List (String × α)} (ascending : Ascending entries)
    (othersAscending : Ascending others) (same : ∀ entry, entry ∈ entries ↔ entry ∈ others) :
    entries = others := by
  have asymm : Std.Asymm fun first second : String × α => first.1 < second.1 :=
    ⟨fun _ _ => String.lt_asymm⟩
  exact List.Pairwise.eq_of_mem_iff ascending othersAscending same

/-- Values may be changed before or after they are inserted. -/
theorem map_insertKey (change : α → β) (key : String) (value : α) (entries : List (String × α)) :
    (insertKey key value entries).map (fun entry => (entry.1, change entry.2)) =
      insertKey key (change value) (entries.map fun entry => (entry.1, change entry.2)) := by
  induction entries with
  | nil => rfl
  | cons entry rest ih =>
      rw [insertKey, List.map_cons, insertKey]
      split
      · rfl
      · split
        · rfl
        · rw [List.map_cons, ih]

end Sorted

namespace SortedMap

open Sorted

variable {α : Type} {key : String} {value : α} {entries : List (String × α)}
  {first second map : SortedMap α}

/-- Equal look-ups make equal maps, since the keys of both stand in the same order. -/
theorem eq_of_get? (same : ∀ key, first.get? key = second.get? key) : first = second := by
  have entries : first.entries = second.entries := by
    apply first.ascending.eq_of_mem_iff second.ascending
    intro entry
    rw [mem_entries_iff, mem_entries_iff, same]
  cases first
  cases second
  cases entries
  rfl

/-- A new key is one more entry, wherever it stands. -/
theorem perm_entries_insert (value : α) (fresh : map.contains key = false) :
    (map.insert key value).entries.Perm ((key, value) :: map.entries) := by
  have absent : key ∉ map.entries.map Prod.fst := by
    rw [← Sorted.isSome_lookup_iff]
    exact Bool.eq_false_iff.mp fresh
  clear fresh
  obtain ⟨entries, ascending⟩ := map
  simp only [insert] at absent ⊢
  clear ascending
  induction entries with
  | nil => rfl
  | cons entry rest ih =>
      rw [List.map_cons, List.mem_cons, not_or] at absent
      rw [Sorted.insertKey, if_neg absent.1]
      split
      · exact .refl _
      · exact (List.Perm.cons entry (ih absent.2)).trans (.swap ..)

theorem ofList_concat (entries : List (String × α)) (entry : String × α) :
    ofList (entries ++ [entry]) = (ofList entries).insert entry.1 entry.2 := by
  simp [ofList]

theorem entries_ofList (entries : List (String × α)) : (ofList entries).entries =
    entries.foldl (fun settled entry => insertKey entry.1 entry.2 settled) [] := by
  induction entries using List.reverseRecOn with
  | nil => rfl
  | append_singleton entries entry ih =>
      rw [ofList_concat, List.foldl_concat, ← ih]
      rfl

theorem get?_ofList_iff :
    (ofList entries).get? key = some value ↔ LastWith key value entries := by
  induction entries using List.reverseRecOn with
  | nil => simpa [not_lastWith_nil] using nofun
  | append_singleton entries entry ih =>
      rw [ofList_concat, get?_insert, lastWith_concat_iff, ← ih]
      obtain ⟨entryKey, entryValue⟩ := entry
      by_cases same : key = entryKey <;> simp [same, eq_comm]

theorem contains_ofList_iff :
    (ofList entries).contains key = true ↔ key ∈ entries.map Prod.fst := by
  induction entries using List.reverseRecOn with
  | nil => simp [ofList]
  | append_singleton entries entry ih => simp [ofList_concat, ih, or_comm]

theorem ofList_entries (map : SortedMap α) : ofList map.entries = map := by
  have behindNone : Ascending ([] ++ map.entries) := map.ascending
  have entries : (ofList map.entries).entries = map.entries := by
    rw [entries_ofList, foldl_insertKey behindNone, List.nil_append]
  apply eq_of_get?
  intro key
  rw [get?, get?, entries]

/-- Where no key comes twice, the map has the entries that came, in the order of their keys. -/
theorem perm_ofList (distinct : (entries.map Prod.fst).Nodup) :
    (ofList entries).entries.Perm entries := by
  induction entries using List.reverseRecOn with
  | nil => exact .nil
  | append_singleton entries entry ih =>
      rw [List.map_append, List.map_singleton, ← List.concat_eq_append,
        List.nodup_concat] at distinct
      have fresh : (ofList entries).contains entry.1 = false := by
        rw [← Bool.not_eq_true, contains_ofList_iff]
        exact distinct.1
      rw [ofList_concat]
      calc ((ofList entries).insert entry.1 entry.2).entries
        _ |>.Perm (entry :: (ofList entries).entries) := perm_entries_insert entry.2 fresh
        _ |>.Perm (entry :: entries) := (ih distinct.2).cons entry
        _ |>.Perm (entries ++ [entry]) := (List.perm_append_singleton entry entries).symm

end SortedMap

namespace Sorted

variable {α : Type} {key : String} {value other : α} {entries : List (String × α)}

theorem LastWith.unique (first : LastWith key value entries) (second : LastWith key other entries) :
    value = other := by
  rw [← SortedMap.get?_ofList_iff] at first second
  exact Option.some.inj (first.symm.trans second)

theorem exists_lastWith_iff :
    (∃ value, LastWith key value entries) ↔ key ∈ entries.map Prod.fst := by
  simp only [← SortedMap.get?_ofList_iff, ← SortedMap.contains_ofList_iff, SortedMap.contains,
    Option.isSome_iff_exists]

end Sorted

end Audience
