import Mathlib.Data.List.Sort
import Audience.Content.Tree

namespace Audience

/-! Which rule types a content tree lists.

The types are gathered one rule after the other into a list that stays ascending, so what is listed
depends only on which types there are.  An id may be used with several kinds and then stands once
with each; a kind may be used under several ids.
-/

namespace RuleType

/-- Ids ascend, and under one id kinds stand in the order in which they are declared. -/
def Before (first second : RuleType) : Prop :=
  first.id < second.id ∨ first.id = second.id ∧ first.kind.ctorIdx < second.kind.ctorIdx

variable {first second third type other : RuleType} {types : List RuleType}

theorem rank_eq_ctorIdx (kind : RuleKind) : kind.rank = kind.ctorIdx := by
  cases kind <;> rfl

theorem precedes_iff : first.precedes second = true ↔ first.Before second := by
  simp [precedes, Before, rank_eq_ctorIdx]

theorem Before.irrefl (type : RuleType) : ¬type.Before type := by
  simp [Before]

theorem Before.trans (below : first.Before second) (above : second.Before third) :
    first.Before third := by
  rcases below with lower | ⟨sameId, lower⟩
  · rcases above with higher | ⟨otherSame, _⟩
    · exact .inl (Int64.lt_trans lower higher)
    · exact .inl (otherSame ▸ lower)
  · rcases above with higher | ⟨otherSame, higher⟩
    · exact .inl (sameId ▸ higher)
    · exact .inr ⟨sameId.trans otherSame, Nat.lt_trans lower higher⟩

theorem Before.ne (below : first.Before second) : first ≠ second := by
  rintro rfl
  exact irrefl first below

theorem Before.asymm (below : first.Before second) : ¬second.Before first :=
  fun above => irrefl first (below.trans above)

instance : Std.Asymm Before := ⟨fun _ _ => Before.asymm⟩

theorem eq_of_not_before (notBelow : ¬first.Before second) (notAbove : ¬second.Before first) :
    first = second := by
  obtain ⟨firstId, firstKind⟩ := first
  obtain ⟨secondId, secondKind⟩ := second
  simp only [Before, not_or, not_and] at notBelow notAbove
  have sameId : firstId = secondId :=
    Int64.le_antisymm (Int64.not_lt.mp notAbove.1) (Int64.not_lt.mp notBelow.1)
  have sameIndex : firstKind.ctorIdx = secondKind.ctorIdx :=
    Nat.le_antisymm (Nat.not_lt.mp (notAbove.2 sameId.symm)) (Nat.not_lt.mp (notBelow.2 sameId))
  have sameKind : firstKind = secondKind := by
    cases firstKind <;> cases secondKind <;> first | rfl | cases sameIndex
  rw [sameId, sameKind]

theorem mem_insertAscending :
    other ∈ insertAscending type types ↔ other = type ∨ other ∈ types := by
  induction types with
  | nil => simp [insertAscending]
  | cons head rest ih =>
      rw [insertAscending]
      split
      · exact List.mem_cons
      next notBelow =>
        split
        · rw [List.mem_cons, ih, List.mem_cons, or_left_comm]
        next notAbove =>
          -- Neither stands before the other, so the type is listed already.
          have known : type = head :=
            eq_of_not_before (mt precedes_iff.mpr notBelow) (mt precedes_iff.mpr notAbove)
          simp [known]

theorem ascending_insertAscending (ascending : types.Pairwise Before) (type : RuleType) :
    (insertAscending type types).Pairwise Before := by
  induction types with
  | nil => simp [insertAscending]
  | cons head rest ih =>
      obtain ⟨below, tail⟩ := List.pairwise_cons.mp ascending
      rw [insertAscending]
      split
      next less =>
        have less := precedes_iff.mp less
        refine List.pairwise_cons.mpr ⟨fun later member => ?_, ascending⟩
        rcases List.mem_cons.mp member with rfl | inRest
        · exact less
        · exact less.trans (below later inRest)
      next notBelow =>
        split
        next less =>
          refine List.pairwise_cons.mpr ⟨fun later member => ?_, ih tail⟩
          rcases mem_insertAscending.mp member with rfl | inRest
          · exact precedes_iff.mp less
          · exact below later inRest
        · exact ascending

/-! Gathering the types of rules keeps the list ascending and loses no type. -/

theorem ascending_gathered (rules : List Rule) (ascending : types.Pairwise Before) :
    (rules.foldl (fun types rule => insertAscending rule.type types) types).Pairwise Before := by
  induction rules generalizing types with
  | nil => exact ascending
  | cons rule rest ih => exact ih (ascending_insertAscending ascending rule.type)

theorem mem_gathered (rules : List Rule) :
    type ∈ rules.foldl (fun types rule => insertAscending rule.type types) types ↔
      type ∈ rules.map Rule.type ∨ type ∈ types := by
  induction rules generalizing types with
  | nil => simp
  | cons rule rest ih =>
      rw [List.foldl_cons, ih, mem_insertAscending, List.map_cons, List.mem_cons, or_left_comm,
        or_assoc]

end RuleType

namespace ContentTree

/-- Some rule of a UI item of a content item has this type. -/
def Uses (tree : ContentTree) (type : RuleType) : Prop :=
  ∃ item ∈ tree.items, ∃ uiItem ∈ item.uiItems, ∃ rule ∈ uiItem.rules, rule.type = type

/-- The types in use, each once, by id and under one id by kind. -/
structure ListsTypes (tree : ContentTree) (types : List RuleType) : Prop where
  mem : ∀ type, type ∈ types ↔ tree.Uses type
  distinct : types.Nodup
  ascending : types.Pairwise RuleType.Before

end ContentTree

/-- Each entry of one list has a counterpart in the other, wherever and however often it stands. -/
def Matched {α : Type} (same : α → α → Prop) (first second : List α) : Prop :=
  (∀ entry ∈ first, ∃ other ∈ second, same entry other) ∧
    ∀ other ∈ second, ∃ entry ∈ first, same entry other

theorem Matched.exists_iff {α : Type} {same : α → α → Prop} {first second : List α}
    {property : α → Prop} (matched : Matched same first second)
    (kept : ∀ entry other, same entry other → (property entry ↔ property other)) :
    (∃ entry ∈ first, property entry) ↔ ∃ other ∈ second, property other := by
  constructor
  · rintro ⟨entry, member, holds⟩
    obtain ⟨other, otherMember, counterpart⟩ := matched.1 entry member
    exact ⟨other, otherMember, (kept entry other counterpart).mp holds⟩
  · rintro ⟨other, member, holds⟩
    obtain ⟨entry, entryMember, counterpart⟩ := matched.2 other member
    exact ⟨entry, entryMember, (kept entry other counterpart).mpr holds⟩

/-- The rules stand in another order or are repeated. -/
@[mk_iff] structure UiItem.Regrouped (first second : UiItem) : Prop where
  id : first.id = second.id
  name : first.name = second.name
  order : first.order = second.order
  rules : ∀ rule, rule ∈ first.rules ↔ rule ∈ second.rules

/-- The UI items, regrouped themselves, stand in another order or are repeated. -/
@[mk_iff] structure ContentItem.Regrouped (first second : ContentItem) : Prop where
  id : first.id = second.id
  name : first.name = second.name
  uiItems : Matched UiItem.Regrouped first.uiItems second.uiItems

/-- The content items, regrouped themselves, stand in another order or are repeated. -/
def ContentTree.Regrouped (first second : ContentTree) : Prop :=
  Matched ContentItem.Regrouped first.items second.items

namespace ContentTree

variable {tree other : ContentTree} {type : RuleType} {types : List RuleType}

theorem uses_iff : tree.Uses type ↔ type ∈ tree.rules.map Rule.type := by
  simp only [Uses, List.mem_map, mem_rules_iff]
  constructor
  · rintro ⟨item, inTree, uiItem, inItem, rule, inRules, typed⟩
    exact ⟨rule, ⟨item, inTree, uiItem, inItem, inRules⟩, typed⟩
  · rintro ⟨rule, ⟨item, inTree, uiItem, inItem, inRules⟩, typed⟩
    exact ⟨item, inTree, uiItem, inItem, rule, inRules, typed⟩

theorem listsTypes_ruleTypes (tree : ContentTree) : tree.ListsTypes tree.ruleTypes := by
  have ascending : tree.ruleTypes.Pairwise RuleType.Before :=
    RuleType.ascending_gathered tree.rules .nil
  refine ⟨fun type => ?_, ascending.imp RuleType.Before.ne, ascending⟩
  rw [uses_iff, ruleTypes, RuleType.mem_gathered]
  simp

theorem ListsTypes.eq_ruleTypes (lists : tree.ListsTypes types) : types = tree.ruleTypes := by
  have listed := tree.listsTypes_ruleTypes
  apply lists.ascending.eq_of_mem_iff listed.ascending
  intro type
  rw [lists.mem, listed.mem]

theorem ruleTypes_eq_iff :
    other.ruleTypes = tree.ruleTypes ↔ ∀ type, other.Uses type ↔ tree.Uses type := by
  constructor
  · intro same type
    rw [← other.listsTypes_ruleTypes.mem, ← tree.listsTypes_ruleTypes.mem, same]
  · intro same
    have listed := other.listsTypes_ruleTypes
    exact ListsTypes.eq_ruleTypes
      ⟨fun type => (listed.mem type).trans (same type), listed.distinct, listed.ascending⟩

theorem Regrouped.uses_iff (regrouped : other.Regrouped tree) (type : RuleType) :
    other.Uses type ↔ tree.Uses type := by
  apply Matched.exists_iff regrouped
  intro item itemThere items
  apply items.uiItems.exists_iff
  intro uiItem uiItemThere uiItems
  exact exists_congr fun rule => and_congr_left' (uiItems.rules rule)

/-- One list of types is the list of those in use, and trees have the same list when they use the
same types.  So it does not show how content items, UI items and rules are ordered or repeated. -/
theorem listsTypes_iff_eq_ruleTypes (tree : ContentTree) :
    (∀ types, tree.ListsTypes types ↔ types = tree.ruleTypes) ∧
      (∀ other : ContentTree,
        other.ruleTypes = tree.ruleTypes ↔ ∀ type, other.Uses type ↔ tree.Uses type) ∧
      ∀ other : ContentTree, other.Regrouped tree → other.ruleTypes = tree.ruleTypes := by
  refine ⟨fun types => ?_, fun other => ruleTypes_eq_iff, fun other regrouped => ?_⟩
  · constructor
    · exact ListsTypes.eq_ruleTypes
    · intro same
      exact same ▸ tree.listsTypes_ruleTypes
  · exact ruleTypes_eq_iff.mpr regrouped.uses_iff

/-- One id has two kinds, and one kind has two ids. -/
def sharedIds : ContentTree :=
  ⟨[⟨1, "home", [⟨1, "news", 1, [⟨1, ⟨2, .roles⟩, .null⟩, ⟨2, ⟨1, .enable⟩, .null⟩]⟩]⟩,
    ⟨2, "menu", [⟨2, "meals", 1, [⟨3, ⟨1, .roles⟩, .null⟩]⟩]⟩]⟩

def sharedIdsRegrouped : ContentTree :=
  ⟨[⟨2, "menu", [⟨2, "meals", 1, [⟨3, ⟨1, .roles⟩, .null⟩]⟩]⟩,
    ⟨1, "home",
      [⟨1, "news", 1, [⟨1, ⟨2, .roles⟩, .null⟩, ⟨2, ⟨1, .enable⟩, .null⟩]⟩,
        ⟨1, "news", 1,
          [⟨2, ⟨1, .enable⟩, .null⟩, ⟨1, ⟨2, .roles⟩, .null⟩, ⟨2, ⟨1, .enable⟩, .null⟩]⟩]⟩,
    ⟨2, "menu", [⟨2, "meals", 1, [⟨3, ⟨1, .roles⟩, .null⟩]⟩]⟩]⟩

theorem sharedIdsRegrouped_listed :
    sharedIdsRegrouped.Regrouped sharedIds ∧
      sharedIdsRegrouped.ruleTypes = sharedIds.ruleTypes ∧
      sharedIds.ruleTypes = [⟨1, .roles⟩, ⟨1, .enable⟩, ⟨2, .roles⟩] := by
  have regrouped : sharedIdsRegrouped.Regrouped sharedIds := by
    simp [Regrouped, Matched, UiItem.regrouped_iff, ContentItem.regrouped_iff, sharedIds,
      sharedIdsRegrouped]
  exact ⟨regrouped, (listsTypes_iff_eq_ruleTypes sharedIds).2.2 _ regrouped, by decide⟩

end ContentTree

end Audience
