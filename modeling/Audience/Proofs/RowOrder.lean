import Mathlib.Data.List.Permutation
import Audience.Proofs.Assembly
import Audience.Proofs.CheckedRules
import Audience.Proofs.JoinedTree

namespace Audience

/-! What a caller sees of tables whose rows stand in another order.

Where ids are distinct, the record of an id is the same in every order.  So the order of the records
and of the attachments leaves no trace in what is seen, and that of the placements shows at most
between UI items that have equal `order`.
-/

section

variable {α α' β γ κ : Type} {id : α → Int64} {records others : List α} {wanted : Int64}
  {record : α}

/-- Of records with distinct ids each is the last with its id. -/
theorem isLast_iff_mem (distinct : (records.map id).Nodup) :
    IsLast id records wanted record ↔ record ∈ records ∧ id record = wanted := by
  constructor
  · rintro ⟨before, after, rfl, same, -⟩
    exact ⟨by simp, same⟩
  · rintro ⟨member, rfl⟩
    obtain ⟨before, after, rfl⟩ := List.append_of_mem member
    refine ⟨before, after, rfl, rfl, fun later laterMember same => ?_⟩
    have tail : ((record :: after).map id).Nodup := by
      rw [List.map_append] at distinct
      exact (List.nodup_append.mp distinct).2.1
    exact (List.nodup_cons.mp tail).1 (List.mem_map.mpr ⟨later, laterMember, same⟩)

theorem isLast_iff_of_perm (distinct : (records.map id).Nodup) (permutation : records.Perm others) :
    IsLast id records wanted record ↔ IsLast id others wanted record := by
  have othersDistinct := (permutation.map id).nodup_iff.mp distinct
  rw [isLast_iff_mem distinct, isLast_iff_mem othersDistinct, permutation.mem_iff]

variable {rows : List α} {otherRows : List α'} {key : α → κ} {otherKey : α' → κ}
  {gives : α → β → Prop} {otherGives : α' → β → Prop} {joined otherJoined : List β}

/-- What rows of the same keys give in turn is related as what two rows of one key give. -/
theorem forall₂_of_keys {related : β → β → Prop} (keys : rows.map key = otherRows.map otherKey)
    (given : List.Forall₂ gives rows joined)
    (otherGiven : List.Forall₂ otherGives otherRows otherJoined)
    (each : ∀ row other record otherRecord, key row = otherKey other → gives row record →
      otherGives other otherRecord → related record otherRecord) :
    List.Forall₂ related joined otherJoined := by
  induction given generalizing otherRows otherJoined with
  | nil =>
      cases otherGiven with
      | nil => exact .nil
      | cons => simp at keys
  | cons here _ ih =>
      cases otherGiven with
      | nil => simp at keys
      | cons otherHere otherLater =>
          obtain ⟨sameKey, laterKeys⟩ := List.cons.inj keys
          exact .cons (each _ _ _ _ sameKey here otherHere) (ih laterKeys otherLater)

/-- Rows of the same keys in another order give what looks the same in another order. -/
theorem perm_map_of_keys {look : β → γ} (keys : (rows.map key).Perm (otherRows.map otherKey))
    (given : List.Forall₂ gives rows joined)
    (otherGiven : List.Forall₂ otherGives otherRows otherJoined)
    (each : ∀ row other record otherRecord, key row = otherKey other → gives row record →
      otherGives other otherRecord → look record = look otherRecord) :
    (joined.map look).Perm (otherJoined.map look) := by
  have byKey : List.Forall₂ (fun name record => ∃ other, otherKey other = name ∧
      otherGives other record) (otherRows.map otherKey) otherJoined :=
    List.forall₂_map_left_iff.mpr (otherGiven.imp fun other _ gives => ⟨other, rfl, gives⟩)
  obtain ⟨reordered, given', permutation⟩ := List.perm_comp_forall₂ keys byKey
  have looks : List.Forall₂ (fun record other => look record = look other) joined reordered := by
    have sameKeys : rows.map key = (rows.map key).map fun name => name := (List.map_id' _).symm
    refine forall₂_of_keys sameKeys given given' ?_
    rintro row name record otherRecord rfl rowGives ⟨other, sameKey, otherGives⟩
    exact each row other record otherRecord sameKey.symm rowGives otherGives
  rw [map_eq_map_of_forall₂ looks fun _ _ same => same]
  exact permutation.map look

/-- The rows that one half of a link selects have the other halves in the order of the links. -/
theorem perm_filter_link {link : α → Int64 × Int64} {otherLink : α' → Int64 × Int64}
    (links : (rows.map link).Perm (otherRows.map otherLink)) (wanted : Int64) :
    ((rows.filter fun row => (link row).1 = wanted).map fun row => (link row).2).Perm
      ((otherRows.filter fun row => (otherLink row).1 = wanted).map fun row =>
        (otherLink row).2) := by
  have selected := (links.filter fun pair => pair.1 = wanted).map Prod.snd
  simpa [List.filter_map, Function.comp_def] using selected

theorem eq_filter_link {link : α → Int64 × Int64} {otherLink : α' → Int64 × Int64}
    (links : rows.map link = otherRows.map otherLink) (wanted : Int64) :
    ((rows.filter fun row => (link row).1 = wanted).map fun row => (link row).2) =
      (otherRows.filter fun row => (otherLink row).1 = wanted).map fun row =>
        (otherLink row).2 := by
  have selected := congrArg (fun pairs => (pairs.filter fun pair => pair.1 = wanted).map Prod.snd)
    links
  simpa [List.filter_map, Function.comp_def] using selected

end

/-- The UI item that a placement names, and the content item it is placed in. -/
def PlacementRecord.link (record : PlacementRecord) : Int64 × Int64 :=
  (record.contentItemId, record.uiItemId)

/-- The UI item that a rule is attached to, and the rule. -/
def AttachmentRecord.link (record : AttachmentRecord) : Int64 × Int64 :=
  (record.uiItemId, record.ruleId)

namespace Tables

/-- No two UI items, rules or rule types have one id. -/
structure Keyed (tables : Tables) : Prop where
  uiItems : (tables.uiItems.map UiItemRecord.id).Nodup
  rules : (tables.rules.map RuleRecord.id).Nodup
  ruleTypes : (tables.ruleTypes.map RuleTypeRecord.id).Nodup

/-- Tables of the same content items and, in any order, the same other rows.  The ids of rows that
place or attach something do not count. -/
structure Rearranged (tables others : Tables) : Prop where
  contentItems : tables.contentItems = others.contentItems
  uiItems : tables.uiItems.Perm others.uiItems
  rules : tables.rules.Perm others.rules
  ruleTypes : tables.ruleTypes.Perm others.ruleTypes
  placements : (tables.placements.map PlacementRecord.link).Perm
    (others.placements.map PlacementRecord.link)
  attachments : (tables.attachments.map AttachmentRecord.link).Perm
    (others.attachments.map AttachmentRecord.link)

variable {tables others : Tables}

theorem Rearranged.symm (rearranged : tables.Rearranged others) : others.Rearranged tables where
  contentItems := rearranged.contentItems.symm
  uiItems := rearranged.uiItems.symm
  rules := rearranged.rules.symm
  ruleTypes := rearranged.ruleTypes.symm
  placements := rearranged.placements.symm
  attachments := rearranged.attachments.symm

theorem Rearranged.places (rearranged : tables.Rearranged others) {uiItem : Int64}
    (placed : tables.Places uiItem) : others.Places uiItem := by
  obtain ⟨link, member, known, rfl⟩ := placed
  have linked := rearranged.placements.mem_iff.mp (List.mem_map_of_mem member)
  obtain ⟨other, otherMember, same⟩ := List.mem_map.mp linked
  obtain ⟨sameContentItem, sameUiItem⟩ := Prod.ext_iff.mp same
  refine ⟨other, otherMember, ?_, sameUiItem⟩
  rw [← rearranged.contentItems, show other.contentItemId = link.contentItemId from sameContentItem]
  exact known

theorem Rearranged.namesKnown (rearranged : tables.Rearranged others) (known : tables.NamesKnown) :
    others.NamesKnown :=
  fun record member => known record (rearranged.ruleTypes.mem_iff.mpr member)

theorem Rearranged.followedResolve (rearranged : tables.Rearranged others)
    (resolve : tables.FollowedResolve) : others.FollowedResolve where
  ruleType := by
    intro rule member
    rw [← (rearranged.ruleTypes.map RuleTypeRecord.id).mem_iff]
    exact resolve.ruleType rule (rearranged.rules.mem_iff.mpr member)
  placement := by
    intro uiItem placed
    rw [← (rearranged.uiItems.map UiItemRecord.id).mem_iff]
    exact resolve.placement uiItem (rearranged.symm.places placed)
  attachment := by
    intro link member placed
    have linked := rearranged.attachments.mem_iff.mpr (List.mem_map_of_mem member)
    obtain ⟨other, otherMember, same⟩ := List.mem_map.mp linked
    obtain ⟨sameUiItem, sameRule⟩ := Prod.ext_iff.mp same
    have otherPlaced : tables.Places other.uiItemId := by
      rw [show other.uiItemId = link.uiItemId from sameUiItem]
      exact rearranged.symm.places placed
    rw [← (rearranged.rules.map RuleRecord.id).mem_iff,
      ← show other.ruleId = link.ruleId from sameRule]
    exact resolve.attachment other otherMember otherPlaced

theorem Rearranged.exists_join (rearranged : tables.Rearranged others)
    (joins : ∃ tree, tables.join = .ok tree) : ∃ tree, others.join = .ok tree := by
  obtain ⟨known, resolve⟩ := exists_join_iff.mp joins
  exact exists_join_iff.mpr ⟨rearranged.namesKnown known, rearranged.followedResolve resolve⟩

theorem Rearranged.givesRule_unique (rearranged : tables.Rearranged others) (keyed : tables.Keyed)
    {link other : AttachmentRecord} {rule otherRule : Rule} (sameRule : link.ruleId = other.ruleId)
    (gives : tables.GivesRule link rule) (otherGives : others.GivesRule other otherRule) :
    rule = otherRule := by
  obtain ⟨found, typed, named⟩ := gives
  obtain ⟨otherFound, otherTyped, otherNamed⟩ := otherGives
  rw [← isLast_iff_of_perm keyed.rules rearranged.rules, ← sameRule] at otherFound
  cases found.unique otherFound
  rw [← isLast_iff_of_perm keyed.ruleTypes rearranged.ruleTypes] at otherTyped
  cases typed.unique otherTyped
  cases named.symm.trans otherNamed
  rfl

end Tables

/-- Which UI item it is, and where it stands among others. -/
def UiItem.label (item : UiItem) : Int64 × Int64 × String := (item.order, item.id, item.name)

/-- What a UI item comes to for a caller. -/
def UiItem.sight (caller : Caller) (item : UiItem) : (Int64 × Int64 × String) × Bool :=
  (item.label, item.isVisible caller)

namespace Tables

variable {tables others : Tables} {caller : Caller}

theorem Rearranged.sight_unique (rearranged : tables.Rearranged others) (keyed : tables.Keyed)
    {link other : PlacementRecord} {item otherItem : UiItem}
    (sameUiItem : link.uiItemId = other.uiItemId) (gives : tables.GivesUiItem link item)
    (otherGives : others.GivesUiItem other otherItem) :
    item.sight caller = otherItem.sight caller := by
  obtain @⟨record, rules, found, attached⟩ := gives
  obtain @⟨_, otherRules, otherFound, otherAttached⟩ := otherGives
  rw [← isLast_iff_of_perm keyed.uiItems rearranged.uiItems, ← sameUiItem] at otherFound
  cases found.unique otherFound
  rw [← sameUiItem] at otherAttached
  have keys := perm_filter_link rearranged.attachments link.uiItemId
  have same : (rules.map fun rule => rule).Perm (otherRules.map fun rule => rule) :=
    perm_map_of_keys keys attached otherAttached
      fun _ _ _ _ same => rearranged.givesRule_unique keyed same
  rw [List.map_id', List.map_id'] at same
  simp only [UiItem.sight, UiItem.label, UiItem.isVisible, same.all_eq]

end Tables

/-- Two content items of one id and name show a caller the same UI items, in any order. -/
structure ContentItem.Alike (caller : Caller) (item other : ContentItem) : Prop where
  id : item.id = other.id
  name : item.name = other.name
  uiItems : (item.uiItems.map (UiItem.sight caller)).Perm (other.uiItems.map (UiItem.sight caller))

/-- Two content items of one name show a caller the same UI items in the same order. -/
structure ContentItem.Same (caller : Caller) (item other : ContentItem) : Prop where
  name : item.name = other.name
  uiItems : item.uiItems.map (UiItem.sight caller) = other.uiItems.map (UiItem.sight caller)

namespace Tables

variable {tables others : Tables} {caller : Caller} {tree other : ContentTree}

theorem Rearranged.sameContentItems (rearranged : tables.Rearranged others) :
    (tables.contentItems.map fun record => record) =
      others.contentItems.map fun record => record := by
  rw [rearranged.contentItems]

theorem Rearranged.alike (rearranged : tables.Rearranged others) (keyed : tables.Keyed)
    (joins : tables.Joins tree) (otherJoins : others.Joins other) :
    List.Forall₂ (ContentItem.Alike caller) tree.items other.items := by
  refine forall₂_of_keys rearranged.sameContentItems joins otherJoins ?_
  rintro record _ _ _ rfl ⟨placed⟩ ⟨otherPlaced⟩
  refine ⟨rfl, rfl, ?_⟩
  exact perm_map_of_keys (perm_filter_link rearranged.placements record.id) placed otherPlaced
    fun _ _ _ _ same => rearranged.sight_unique keyed same

theorem Rearranged.same (rearranged : tables.Rearranged others) (keyed : tables.Keyed)
    (inOrder : tables.placements.map PlacementRecord.link =
      others.placements.map PlacementRecord.link)
    (joins : tables.Joins tree) (otherJoins : others.Joins other) :
    List.Forall₂ (ContentItem.Same caller) tree.items other.items := by
  refine forall₂_of_keys rearranged.sameContentItems joins otherJoins ?_
  rintro record _ _ _ rfl ⟨placed⟩ ⟨otherPlaced⟩
  refine ⟨rfl, ?_⟩
  refine map_eq_map_of_forall₂ (forall₂_of_keys (eq_filter_link inOrder record.id) placed
    otherPlaced fun _ _ _ _ same => rearranged.sight_unique keyed same) fun _ _ same => same

end Tables

theorem StableOrder.map {α β : Type} {key : β → Int64} {look : α → β} {items sorted : List α}
    (order : StableOrder (fun item => key (look item)) items sorted) :
    StableOrder key (items.map look) (sorted.map look) where
  permutation := order.permutation.map look
  ascending := List.pairwise_map.mpr order.ascending
  ties := by
    intro value
    have level := congrArg (List.map look) (order.ties value)
    simpa [List.filter_map, Function.comp_def] using level

theorem StableOrder.keys_eq {α : Type} {key : α → Int64} {items others sorted otherSorted : List α}
    (permutation : items.Perm others) (order : StableOrder key items sorted)
    (otherOrder : StableOrder key others otherSorted) :
    sorted.map key = otherSorted.map key := by
  have keys : (sorted.map key).Perm (otherSorted.map key) :=
    (order.permutation.trans (permutation.trans otherOrder.permutation.symm)).map key
  refine keys.eq_of_pairwise ?_ (List.pairwise_map.mpr order.ascending)
    (List.pairwise_map.mpr otherOrder.ascending)
  intro first second _ _ below above
  exact Int64.le_antisymm below above

namespace ContentItem

/-- Two content items show lists of names that differ only in where UI items of equal `order`
stand: place by place the `order` is the same, and the UI items of each `order` are the same. -/
def ShowTied (caller : Caller) (item other : ContentItem) (names otherNames : List String) : Prop :=
  ∃ shown otherShown,
    StableOrder UiItem.order (item.uiItems.filter (·.isVisible caller)) shown ∧
    StableOrder UiItem.order (other.uiItems.filter (·.isVisible caller)) otherShown ∧
    names = shown.map UiItem.name ∧ otherNames = otherShown.map UiItem.name ∧
    shown.map UiItem.order = otherShown.map UiItem.order ∧
    ∀ order, ((shown.filter (·.order == order)).map UiItem.label).Perm
      ((otherShown.filter (·.order == order)).map UiItem.label)

variable {caller : Caller} {item other : ContentItem}

theorem labels_visible (item : ContentItem) :
    ((item.uiItems.map (UiItem.sight caller)).filter Prod.snd).map Prod.fst =
      (item.uiItems.filter (·.isVisible caller)).map UiItem.label := by
  simp [List.filter_map, Function.comp_def, UiItem.sight]

theorem stableOrder_labels {shown : List UiItem}
    (order : StableOrder UiItem.order (item.uiItems.filter (·.isVisible caller)) shown) :
    StableOrder Prod.fst ((item.uiItems.filter (·.isVisible caller)).map UiItem.label)
      (shown.map UiItem.label) :=
  StableOrder.map order

theorem Alike.isLive (alike : Alike caller item other) :
    item.isLive caller = other.isLive caller := by
  have live : ∀ item : ContentItem,
      item.isLive caller = (item.uiItems.map (UiItem.sight caller)).any Prod.snd := by
    intro item
    simp [ContentItem.isLive, UiItem.sight, UiItem.isVisible, List.any_map, Function.comp_def]
  rw [live, live, alike.uiItems.any_eq]

theorem Alike.showTied (alike : Alike caller item other) :
    ShowTied caller item other (item.visibleNames caller) (other.visibleNames caller) := by
  have labels := (alike.uiItems.filter Prod.snd).map Prod.fst
  rw [labels_visible, labels_visible] at labels
  have order := stableOrder_labels (item.stableOrder_visible caller)
  have otherOrder := stableOrder_labels (other.stableOrder_visible caller)
  refine ⟨_, _, item.stableOrder_visible caller, other.stableOrder_visible caller, rfl, rfl, ?_, ?_⟩
  · have keys := StableOrder.keys_eq labels order otherOrder
    rw [List.map_map, List.map_map] at keys
    exact keys
  · intro value
    have shown := order.permutation.trans (labels.trans otherOrder.permutation.symm)
    have level := shown.filter fun label => label.1 == value
    rw [List.filter_map, List.filter_map] at level
    exact level

theorem Same.visibleNames (same : Same caller item other) :
    item.visibleNames caller = other.visibleNames caller := by
  have labels := congrArg (fun sights => (sights.filter Prod.snd).map Prod.fst) same.uiItems
  simp only [labels_visible] at labels
  have order := stableOrder_labels (item.stableOrder_visible caller)
  rw [labels] at order
  have shown := order.unique (stableOrder_labels (other.stableOrder_visible caller))
  have names := congrArg (List.map fun label => label.2.2) shown
  rw [List.map_map, List.map_map] at names
  exact names

end ContentItem

theorem rel_getLast? {α β : Type} {related : α → β → Prop} {items : List α} {others : List β}
    (each : List.Forall₂ related items others) :
    Option.Rel related items.getLast? others.getLast? := by
  have behind := List.rel_reverse each
  rw [List.getLast?_eq_head?_reverse, List.getLast?_eq_head?_reverse]
  generalize items.reverse = items at behind
  generalize others.reverse = others at behind
  cases behind with
  | nil => exact .none
  | cons here _ => exact .some here

namespace ContentTree

/-- Two trees give a caller the same view but for the places of UI items of equal `order`. -/
def AssembleTied (caller : Caller) (tree other : ContentTree) : Prop :=
  List.Forall₂ (fun entry otherEntry => entry.1 = otherEntry.1 ∧
      ∃ item otherItem, tree.lastLive? caller entry.1 = some item ∧
        other.lastLive? caller otherEntry.1 = some otherItem ∧
        ContentItem.ShowTied caller item otherItem entry.2 otherEntry.2)
    (tree.assemble caller).entries (other.assemble caller).entries

variable {caller : Caller} {tree other : ContentTree}

theorem forall₂_live (alike : List.Forall₂ (ContentItem.Alike caller) tree.items other.items) :
    List.Forall₂ (ContentItem.Alike caller) (tree.live caller) (other.live caller) := by
  refine List.rel_filter ?_ alike
  intro item other here
  simp only [here.isLive]

theorem rel_lastLive? (alike : List.Forall₂ (ContentItem.Alike caller) tree.items other.items)
    (name : String) :
    Option.Rel (ContentItem.Alike caller) (tree.lastLive? caller name)
      (other.lastLive? caller name) := by
  refine rel_getLast? (List.rel_filter ?_ (forall₂_live alike))
  intro item other here
  simp only [here.name]

theorem names_assemble_eq (alike : List.Forall₂ (ContentItem.Alike caller) tree.items other.items) :
    (tree.assemble caller).names = (other.assemble caller).names := by
  rw [names_assemble, names_assemble, map_eq_map_of_forall₂ (forall₂_live alike)
    fun _ _ here => here.name]

theorem entries_assemble (tree : ContentTree) (caller : Caller) :
    (tree.assemble caller).entries = (tree.assemble caller).names.map fun name =>
      (name, ((tree.lastLive? caller name).map (·.visibleNames caller)).getD []) := by
  refine View.entries_eq_map fun name items member => ?_
  obtain ⟨item, last, shows⟩ := (tree.describes_assemble caller).entry name items member
  simp [last, ContentItem.shows_iff.mp shows]

theorem assembleTied_of_alike
    (alike : List.Forall₂ (ContentItem.Alike caller) tree.items other.items) :
    AssembleTied caller tree other := by
  rw [AssembleTied, entries_assemble tree, entries_assemble other, ← names_assemble_eq alike,
    List.forall₂_map_left_iff, List.forall₂_map_right_iff, List.forall₂_same]
  intro name member
  refine ⟨rfl, ?_⟩
  obtain ⟨items, held⟩ := Option.isSome_iff_exists.mp (View.contains_iff.mpr member)
  obtain ⟨item, last, -⟩ := get?_assemble_eq_some_iff.mp held
  have related := rel_lastLive? alike name
  rw [last] at related
  generalize other.lastLive? caller name = found at related ⊢
  cases related with
  | some here =>
      refine ⟨_, _, last, rfl, ?_⟩
      simpa [last] using here.showTied

theorem assemble_eq_of_same
    (same : List.Forall₂ (ContentItem.Same caller) tree.items other.items) :
    tree.assemble caller = other.assemble caller := by
  let shown (item : ContentItem) : String × List String := (item.name, item.visibleNames caller)
  let put (view : View) (entry : String × List String) : View :=
    if entry.2.isEmpty then view else view.put entry.1 entry.2
  have assembled : ∀ tree : ContentTree,
      tree.assemble caller = (tree.items.map shown).foldl put View.empty := by
    intro tree
    rw [List.foldl_map]
    rfl
  have shownAlike : tree.items.map shown = other.items.map shown :=
    map_eq_map_of_forall₂ same fun item otherItem here => Prod.ext here.name here.visibleNames
  rw [assembled, assembled, shownAlike]

end ContentTree

namespace Tables

/-- The order of rows decides nothing about whether tables join, and that of placements at most
which of the UI items of equal `order` in a content item stands first. -/
theorem join_rearranged {tables others : Tables} (keyed : tables.Keyed)
    (rearranged : tables.Rearranged others) (caller : Caller) :
    ((∃ tree, tables.join = .ok tree) ↔ ∃ tree, others.join = .ok tree) ∧
      ∀ tree other, tables.join = .ok tree → others.join = .ok other →
        ContentTree.AssembleTied caller tree other ∧
          (tables.placements.map PlacementRecord.link = others.placements.map PlacementRecord.link →
            tree.assemble caller = other.assemble caller) := by
  refine ⟨⟨rearranged.exists_join, rearranged.symm.exists_join⟩, ?_⟩
  intro tree other joined otherJoined
  have joins := (join_ok_iff_joins.mp joined).2.2
  have otherJoins := (join_ok_iff_joins.mp otherJoined).2.2
  refine ⟨?_, fun inOrder => ?_⟩
  · exact ContentTree.assembleTied_of_alike (rearranged.alike keyed joins otherJoins)
  · exact ContentTree.assemble_eq_of_same (rearranged.same keyed inOrder joins otherJoins)

/-- Two UI items of equal `order` in one content item, and one before them that only administrators
see. -/
def tiedOrders : Tables where
  contentItems := [⟨1, "home"⟩]
  uiItems := [⟨1, "weather", 5⟩, ⟨2, "dining", 5⟩, ⟨3, "news", 2⟩]
  placements := [⟨1, 1, 1⟩, ⟨2, 1, 2⟩, ⟨3, 1, 3⟩]
  ruleTypes := [⟨1, "roles"⟩, ⟨2, "enable"⟩]
  rules := [⟨1, 2, .bool true⟩, ⟨2, 1, .text "admin"⟩]
  attachments := [⟨1, 1, 1⟩, ⟨2, 3, 2⟩, ⟨3, 3, 1⟩]
  lastUpdated := none
  lastUpdatedBy := none

/-- The same rows from last to first, with new ids for those that link others. -/
def tiedOrdersReversed : Tables where
  contentItems := [⟨1, "home"⟩]
  uiItems := tiedOrders.uiItems.reverse
  placements := [⟨7, 1, 3⟩, ⟨8, 1, 2⟩, ⟨9, 1, 1⟩]
  ruleTypes := tiedOrders.ruleTypes.reverse
  rules := tiedOrders.rules.reverse
  attachments := [⟨7, 3, 1⟩, ⟨8, 3, 2⟩, ⟨9, 1, 1⟩]
  lastUpdated := none
  lastUpdatedBy := none

def administrator : Caller := ⟨some ⟨some "u-1", 4, .ofList ["admin"]⟩, none, none, none⟩

theorem tiedOrders_rearranged :
    tiedOrders.Keyed ∧ tiedOrders.Rearranged tiedOrdersReversed ∧
      ∃ tree other, tiedOrders.join = .ok tree ∧ tiedOrdersReversed.join = .ok other ∧
        ContentTree.AssembleTied administrator tree other ∧
        tree.assemble administrator = ⟨[("home", ["news", "weather", "dining"])]⟩ ∧
        other.assemble administrator = ⟨[("home", ["news", "dining", "weather"])]⟩ := by
  have keyed : tiedOrders.Keyed :=
    { uiItems := by decide
      rules := by decide
      ruleTypes := by decide }
  have rearranged : tiedOrders.Rearranged tiedOrdersReversed :=
    { contentItems := rfl
      uiItems := (List.reverse_perm _).symm
      rules := (List.reverse_perm _).symm
      ruleTypes := (List.reverse_perm _).symm
      placements := by decide
      attachments := by decide }
  have tied := (join_rearranged keyed rearranged administrator).2
  exact ⟨keyed, rearranged, _, _, rfl, rfl, (tied _ _ rfl rfl).1, by cbv, by cbv⟩

end Tables

end Audience
