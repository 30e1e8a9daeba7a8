import Mathlib.Data.List.Nodup
import Audience.Proofs.Assembly
import Audience.Proofs.RoleExpressions

namespace Audience

/-! Who gains roles or privacy level sees no less.

Only negation can turn a role that is gained into something that is lost, so content is asked to
hold no role expression with a negation in it.
-/

namespace RoleExpression

/-- Whether a list negates the expression behind its first element. -/
def negates : List Value → Bool
  | [.text name, _] => name == negation
  | _ => false

mutual

/-- Whether an expression negates nothing at any depth.  Maps are no expressions, so nothing is
looked for in them. -/
def isPositive : Value → Bool
  | .list items => !negates items && arePositive items
  | _ => true

def arePositive : List Value → Bool
  | [] => true
  | item :: rest => isPositive item && arePositive rest

end

variable {holds other : Value → Bool} {links : List (Operator × Value)} {first second : Option NameSet}
  {items : List Value} {value : Value}

theorem arePositive_iff : arePositive items = true ↔ ∀ item ∈ items, isPositive item = true := by
  induction items with
  | nil => simp [arePositive]
  | cons item rest ih => simp [arePositive, ih]

theorem isPositive_list_iff : isPositive (.list items) = true ↔
    negates items = false ∧ ∀ item ∈ items, isPositive item = true := by
  simp [isPositive, arePositive_iff]

theorem unbroken_mono (more : ∀ link ∈ links, holds link.2 = true → other link.2 = true)
    (unbroken : Unbroken holds links) : Unbroken other links :=
  fun link member isAll => more link member (unbroken link member isAll)

theorem resumed_mono (more : ∀ link ∈ links, holds link.2 = true → other link.2 = true)
    (resumed : Resumed holds links) : Resumed other links := by
  obtain ⟨before, operand, after, rfl, here, unbroken⟩ := resumed
  refine ⟨before, operand, after, rfl, more (.any, operand) (by simp) here, ?_⟩
  refine unbroken_mono (fun link member => more link ?_) unbroken
  exact List.mem_append_right _ (List.mem_cons_of_mem _ member)

theorem carried_mono {before after : Bool} (start : before = true → after = true)
    (more : ∀ link ∈ links, holds link.2 = true → other link.2 = true)
    (carried : Carried holds before links) : Carried other after links := by
  rcases carried with ⟨started, unbroken⟩ | resumed
  · exact .inl ⟨start started, unbroken_mono more unbroken⟩
  · exact .inr (resumed_mono more resumed)

/-- What holds without negation holds with more roles as well. -/
theorem evaluate_mono
    (more : ∀ role, RoleExpression.holds first role = true → RoleExpression.holds second role = true)
    (value : Value) (positive : isPositive value = true) (held : evaluate first value = true) :
    evaluate second value = true := by
  match value with
  | .text role =>
      rw [evaluate] at held ⊢
      exact more role held
  | .null => rfl
  | .bool _ => rfl
  | .number _ => rfl
  | .map _ => rfl
  | .list [] => rfl
  | .list [inner] =>
      have inside := (isPositive_list_iff.mp positive).2 inner List.mem_cons_self
      rw [evaluate, evaluateList] at held ⊢
      exact evaluate_mono more inner inside held
  | .list (head :: next :: rest) =>
      obtain ⟨notNegated, inside⟩ := isPositive_list_iff.mp positive
      have plain : ¬(head = .text "NOT" ∧ rest = []) := by
        rintro ⟨rfl, rfl⟩
        simp [negates, negation] at notNegated
      -- Both sides take the same links, and only what these hold can grow.
      rw [evaluate_chain plain] at held ⊢
      refine carried_mono (evaluate_mono more head (inside head List.mem_cons_self)) ?_ held
      intro link member
      have within := mem_of_mem_links member
      have smaller : sizeOf link.2 < 1 + sizeOf next + sizeOf rest := List.sizeOf_lt_of_mem within
      exact evaluate_mono more link.2 (inside link.2 (List.mem_cons_of_mem _ within))
termination_by sizeOf value

end RoleExpression

/-- The second identity has all roles of the first, and no lower privacy level. -/
structure Identity.AtMost (first second : Identity) : Prop where
  roles : ∀ role, first.roles.contains role = true → second.roles.contains role = true
  privacyLevel : first.privacyLevel ≤ second.privacyLevel

/-- Callers differ at most in who they are, and the second has no less of roles and privacy level
than the first. -/
structure Caller.AtMost (first second : Caller) : Prop where
  signIn : first.signIn = second.signIn
  loyalty : first.loyalty = second.loyalty
  platform : first.platform = second.platform
  identity : first.identity = none ∨ ∃ less more, first.identity = some less ∧
    second.identity = some more ∧ less.AtMost more

namespace Caller.AtMost

variable {first second : Caller}

theorem holds (atMost : first.AtMost second) (role : String)
    (held : RoleExpression.holds first.roles role = true) :
    RoleExpression.holds second.roles role = true := by
  rw [Caller.roles] at held ⊢
  rcases atMost.identity with none | ⟨less, more, isLess, isMore, grown⟩
  · simp [none, RoleExpression.holds] at held
  · rw [isLess] at held
    rw [isMore]
    exact grown.roles role held

theorem reaches (atMost : first.AtMost second) (level : Int64)
    (reached : first.identity.any (fun identity => decide (level ≤ identity.privacyLevel)) = true) :
    second.identity.any (fun identity => decide (level ≤ identity.privacyLevel)) = true := by
  rcases atMost.identity with none | ⟨less, more, isLess, isMore, grown⟩
  · simp [none] at reached
  · rw [isLess, Option.any_some] at reached
    rw [isMore, Option.any_some]
    exact decide_eq_true (Int64.le_trans (of_decide_eq_true reached) grown.privacyLevel)

theorem lets (atMost : first.AtMost second) {kind : RuleKind} {value : Value}
    (positive : kind = .roles → RoleExpression.isPositive value = true)
    (held : kind.lets first value = true) : kind.lets second value = true := by
  cases kind with
  | roles => exact RoleExpression.evaluate_mono atMost.holds value (positive rfl) held
  | privacy =>
      simp only [RuleKind.lets] at held ⊢
      cases wanted : value.number? with
      | none => simp [wanted] at held
      | some level =>
          simp only [wanted] at held
          exact atMost.reaches level.toInt64 held
  | signIn =>
      simp only [RuleKind.lets, ← atMost.signIn]
      exact held
  | loyalty =>
      simp only [RuleKind.lets, Caller.isHousingResident, ← atMost.loyalty]
      exact held
  | enable => exact held
  | platform =>
      simp only [RuleKind.lets, Caller.os?, ← atMost.platform]
      exact held

end Caller.AtMost

/-- No expression in a tree negates anything. -/
def ContentTree.IsPositive (tree : ContentTree) : Prop :=
  ∀ rule ∈ tree.rules, rule.type.kind = .roles → RoleExpression.isPositive rule.value = true

theorem filter_sublist_filter {α : Type} {kept more : α → Bool} {items : List α}
    (grown : ∀ item ∈ items, kept item = true → more item = true) :
    (items.filter kept).Sublist (items.filter more) := by
  refine List.sublist_filter_iff.mpr ⟨items.filter kept, List.filter_sublist, ?_⟩
  refine (List.filter_eq_self.mpr fun item member => ?_).symm
  obtain ⟨inside, passed⟩ := List.mem_filter.mp member
  exact grown item inside passed

theorem eraseDups_eq_self {names : List String} (distinct : names.Nodup) :
    names.eraseDups = names := by
  induction names with
  | nil => rfl
  | cons name rest ih =>
      obtain ⟨fresh, restDistinct⟩ := List.nodup_cons.mp distinct
      have others : rest.filter (fun other => !other == name) = rest := by
        refine List.filter_eq_self.mpr fun other member => ?_
        have different : other ≠ name := fun same => fresh (same ▸ member)
        simpa using different
      rw [List.eraseDups_cons, others, ih restDistinct]

namespace ContentTree

variable {tree : ContentTree} {first second : Caller} {item : ContentItem} {uiItem : UiItem}

theorem isVisible_mono (positive : tree.IsPositive) (atMost : first.AtMost second)
    (member : item ∈ tree.items) (uiMember : uiItem ∈ item.uiItems)
    (visible : uiItem.isVisible first = true) : uiItem.isVisible second = true := by
  rw [UiItem.isVisible, List.all_eq_true] at visible ⊢
  intro rule ruleMember
  have inTree : rule ∈ tree.rules := mem_rules_iff.mpr ⟨item, member, uiItem, uiMember, ruleMember⟩
  exact atMost.lets (positive rule inTree) (visible rule ruleMember)

theorem visibleNames_sublist (positive : tree.IsPositive) (atMost : first.AtMost second)
    (member : item ∈ tree.items) :
    (item.visibleNames first).Sublist (item.visibleNames second) := by
  refine (filter_sublist_filter fun uiItem sorted visible => ?_).map UiItem.name
  have uiMember : uiItem ∈ item.uiItems := List.mem_mergeSort.mp sorted
  exact isVisible_mono positive atMost member uiMember visible

theorem isLive_mono (positive : tree.IsPositive) (atMost : first.AtMost second)
    (member : item ∈ tree.items) (live : item.isLive first = true) :
    item.isLive second = true := by
  obtain ⟨uiItem, uiMember, visible⟩ := List.any_eq_true.mp live
  exact List.any_eq_true.mpr
    ⟨uiItem, uiMember, isVisible_mono positive atMost member uiMember visible⟩

theorem names_assemble_of_distinct (distinct : (tree.items.map ContentItem.name).Nodup)
    (caller : Caller) :
    (tree.assemble caller).names = (tree.live caller).map ContentItem.name := by
  have sublist := (List.filter_sublist (p := (·.isLive caller)) (l := tree.items)).map
    ContentItem.name
  rw [names_assemble, eraseDups_eq_self]
  exact distinct.sublist sublist

/-- With distinct names, a live content item is the one that counts for its name. -/
theorem lastLive?_of_distinct (distinct : (tree.items.map ContentItem.name).Nodup)
    {caller : Caller} (member : item ∈ tree.items) (live : item.isLive caller = true) :
    tree.lastLive? caller item.name = some item := by
  have among : item ∈ (tree.live caller).filter (·.name == item.name) := by
    simp [ContentTree.live, member, live]
  cases last : tree.lastLive? caller item.name with
  | none =>
      rw [lastLive?, List.getLast?_eq_none_iff] at last
      rw [last] at among
      cases among
  | some other =>
      obtain ⟨otherLive, named⟩ := List.mem_filter.mp (List.mem_of_getLast? last)
      have otherMember : other ∈ tree.items := (List.mem_filter.mp otherLive).1
      rw [List.inj_on_of_nodup_map distinct otherMember member (eq_of_beq named)]

/-- Whoever gains roles or privacy level loses sight of nothing, and what was seen before keeps its
order. -/
theorem assemble_mono (distinct : (tree.items.map ContentItem.name).Nodup)
    (positive : tree.IsPositive) (atMost : first.AtMost second) :
    (tree.assemble first).names.Sublist (tree.assemble second).names ∧
      ∀ name items, (tree.assemble first).get? name = some items →
        ∃ more, (tree.assemble second).get? name = some more ∧ items.Sublist more := by
  constructor
  · rw [names_assemble_of_distinct distinct, names_assemble_of_distinct distinct]
    refine (filter_sublist_filter fun item member live => ?_).map ContentItem.name
    exact isLive_mono positive atMost member live
  · intro name items seen
    rw [get?_assemble] at seen
    obtain ⟨item, last, rfl⟩ := Option.map_eq_some_iff.mp seen
    obtain ⟨live, named⟩ := List.mem_filter.mp (List.mem_of_getLast? last)
    obtain ⟨member, live⟩ := List.mem_filter.mp live
    -- Names are distinct, so the same item counts for the name on both sides.
    have stillLive := isLive_mono positive atMost member live
    refine ⟨item.visibleNames second, ?_, visibleNames_sublist positive atMost member⟩
    rw [get?_assemble, ← eq_of_beq named, lastLive?_of_distinct distinct member stillLive,
      Option.map_some]

/-- Something for everybody, something behind nested role expressions, and something behind a
privacy level. -/
def staffTree : ContentTree :=
  ⟨[⟨1, "home", [⟨1, "drafts", 2, [⟨1, ⟨1, .roles⟩,
          .list [.list [.text "editor", .text "OR", .text "admin"], .text "AND", .text "staff"]⟩]⟩,
        ⟨2, "news", 1, []⟩]⟩,
      ⟨2, "wallet", [⟨3, "balance", 1, [⟨2, ⟨2, .privacy⟩, .number (.ofNat 3)⟩]⟩]⟩]⟩

def newStaff : Caller := ⟨some ⟨some "u-1", 1, .ofList ["staff"]⟩, none, none, none⟩

def editor : Caller := ⟨some ⟨none, 4, .ofList ["editor", "staff"]⟩, none, none, none⟩

theorem newStaff_atMost_editor : newStaff.AtMost editor where
  signIn := rfl
  loyalty := rfl
  platform := rfl
  identity := by
    refine .inr ⟨_, _, rfl, rfl, { roles := ?_, privacyLevel := by decide }⟩
    intro role held
    rw [NameSet.ofList, NameSet.contains_insertAll_iff] at held ⊢
    exact held.imp_left (List.mem_cons_of_mem "editor")

theorem assemble_mono_staffTree :
    (staffTree.assemble newStaff).names = ["home"] ∧
      (staffTree.assemble editor).names = ["home", "wallet"] ∧
      (staffTree.assemble newStaff).names.Sublist (staffTree.assemble editor).names ∧
      ∀ name items, (staffTree.assemble newStaff).get? name = some items →
        ∃ more, (staffTree.assemble editor).get? name = some more ∧ items.Sublist more := by
  have distinct : (staffTree.items.map ContentItem.name).Nodup := by decide
  have positive : staffTree.IsPositive := by
    unfold IsPositive
    decide
  refine ⟨?_, ?_, assemble_mono distinct positive newStaff_atMost_editor⟩
  · rw [names_assemble_of_distinct distinct]
    decide +kernel
  · rw [names_assemble_of_distinct distinct]
    decide +kernel

end ContentTree

end Audience
