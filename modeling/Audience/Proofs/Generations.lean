import Audience.Proofs.Indistinguishable

namespace Audience

/-! Callers who tell their sign-in in the second generation or in the third.

The third generation asks the predicates of the second one first, and of the same facts, so only
its own predicates can tell the two apart.  They are looked at when a map asks for nothing that
both generations know.
-/

/-- A map asks for a key when it has it and its entry is not null. -/
def Value.Asks (value : Value) (key : String) : Prop :=
  ∃ wanted, value.get? key = some wanted ∧ wanted ≠ .null

namespace SignInPredicate

/-- The predicates that the second generation does not know, in order of priority. -/
def added : List SignInPredicate := [cardNumber, libraryNumber, documentType]

end SignInPredicate

/-- No map, or one that asks for something both generations know, or for nothing that only the
third one knows. -/
def Value.Portable (value : Value) : Prop :=
  value.map? = none ∨ (∃ predicate ∈ SignInPredicate.understood .v2, value.Asks predicate.key) ∨
    ∀ predicate ∈ SignInPredicate.added, ¬value.Asks predicate.key

namespace SignInPredicate

variable {entries : List (String × Value)} {predicate : SignInPredicate} {wanted : Value}
  {predicates : List SignInPredicate}

theorem named?_eq_some_iff : named? entries predicate = some wanted ↔
    Value.get? (.map entries) predicate.key = some wanted ∧ wanted ≠ .null := by
  have notNull : (!wanted.isNull) = true ↔ wanted ≠ .null := by
    cases wanted <;> simp [Value.isNull]
  rw [named?, Option.filter_eq_some_iff, notNull]
  rfl

theorem exists_select_iff : (∃ chosen, select predicates entries = some chosen) ↔
    ∃ predicate ∈ predicates, Value.Asks (.map entries) predicate.key := by
  rw [← Option.isSome_iff_exists, select, List.findSome?_isSome_iff]
  refine exists_congr fun predicate => and_congr_right fun _ => ?_
  rw [Option.isSome_map, Option.isSome_iff_exists]
  exact exists_congr fun wanted => named?_eq_some_iff

theorem select_eq_none_iff : select predicates entries = none ↔
    ∀ predicate ∈ predicates, ¬Value.Asks (.map entries) predicate.key := by
  rw [← Option.not_isSome_iff_eq_none, Option.isSome_iff_exists, exists_select_iff]
  simp only [not_exists, not_and]

theorem select_v3 (entries : List (String × Value)) :
    select (understood .v3) entries =
      (select (understood .v2) entries).or (select added entries) := by
  have parts : understood .v3 = understood .v2 ++ added := rfl
  rw [parts, select, List.findSome?_append]
  rfl

theorem mem_of_select {chosen : SignInPredicate × Value}
    (selected : select predicates entries = some chosen) : chosen.1 ∈ predicates := by
  obtain ⟨predicate, member, asked⟩ := List.exists_of_findSome?_eq_some selected
  obtain ⟨wanted, _, rfl⟩ := Option.map_eq_some_iff.mp asked
  exact member

variable (tokens : Tokens) (profile : Option Profile) (card : Option Card)
  (personal : Option PersonalData)

theorem decide_of_understood (known : predicate ∈ understood .v2) (wanted : Value) :
    decide (.v2 tokens profile) predicate wanted =
      decide (.v3 (some tokens) profile card personal) predicate wanted := by
  cases predicate with
  | cardNumber => contradiction
  | libraryNumber => contradiction
  | documentType => contradiction
  | _ => rfl

theorem evaluate_of_portable {value : Value} (portable : value.Portable) :
    evaluate (.v2 tokens profile) value =
      evaluate (.v3 (some tokens) profile card personal) value := by
  cases value with
  | map entries =>
      simp only [evaluate, Value.map?, SignIn.version, select_v3]
      cases selected : select (understood .v2) entries with
      | some chosen =>
          exact decide_of_understood tokens profile card personal (mem_of_select selected) chosen.2
      | none =>
          -- The map asks for nothing that both know, so it asks for nothing at all.
          rcases portable with noMap | known | notAdded
          · contradiction
          · obtain ⟨chosen, found⟩ := exists_select_iff.mpr known
            rw [selected] at found
            contradiction
          · cases later : select added entries with
            | none => rfl
            | some chosen =>
                obtain ⟨predicate, member, asks⟩ := exists_select_iff.mp ⟨chosen, later⟩
                exact absurd asks (notAdded predicate member)
  | _ => rfl

/-- A predicate that only the third generation knows is met by some sign-in, unless it is asked
wrongly. -/
theorem exists_decide_ne_false (isAdded : predicate ∈ added) (wanted : Value) :
    ∃ card personal, decide (.v3 (some tokens) profile card personal) predicate wanted ≠
      .ok false := by
  have filled (flag : Bool) : ∃ number : Option String, number.any (· != "") = flag := by
    cases flag with
    | true => exact ⟨some "1", by decide⟩
    | false => exact ⟨none, rfl⟩
  cases predicate with
  | cardNumber =>
      cases wanted with
      | bool flag =>
          obtain ⟨number, same⟩ := filled flag
          refine ⟨some ⟨number, none⟩, none, ?_⟩
          simp [decide, takesText, Value.bool?, SignIn.flag, SignIn.card?, same]
      | _ => exact ⟨none, none, by simp [decide, takesText, Value.bool?]⟩
  | libraryNumber =>
      cases wanted with
      | bool flag =>
          obtain ⟨number, same⟩ := filled flag
          refine ⟨some ⟨none, number⟩, none, ?_⟩
          simp [decide, takesText, Value.bool?, SignIn.flag, SignIn.card?, same]
      | _ => exact ⟨none, none, by simp [decide, takesText, Value.bool?]⟩
  | documentType =>
      cases wanted with
      | text kind =>
          refine ⟨none, some ⟨some kind⟩, ?_⟩
          simp [decide, takesText, Value.text?, SignIn.matchesText, SignIn.personal?]
      | _ => exact ⟨none, none, by simp [decide, takesText, Value.text?]⟩
  | _ => contradiction

/-- Only on portable values the two generations always agree. -/
theorem portable_of_evaluate {value : Value}
    (same : ∀ card personal, evaluate (.v2 tokens profile) value =
      evaluate (.v3 (some tokens) profile card personal) value) : value.Portable := by
  cases value with
  | map entries =>
      by_cases known : ∃ predicate ∈ understood .v2, Value.Asks (.map entries) predicate.key
      · exact .inr (.inl known)
      · have unselected : select (understood .v2) entries = none :=
          select_eq_none_iff.mpr fun predicate member asks => known ⟨predicate, member, asks⟩
        cases selected : select added entries with
        | none => exact .inr (.inr (select_eq_none_iff.mp selected))
        | some chosen =>
            obtain ⟨card, personal, notFalse⟩ :=
              exists_decide_ne_false tokens profile (mem_of_select selected) chosen.2
            have agreed := same card personal
            simp only [evaluate, Value.map?, SignIn.version, select_v3, unselected, selected,
              Option.none_or] at agreed
            exact absurd agreed.symm notFalse
  | _ => exact .inl rfl

end SignInPredicate

namespace SignIn

/-- Sent in the second generation or in the third, a sign-in is decided alike exactly for portable
values.  So a caller sees the same of a tree whose values for sign-ins are portable. -/
theorem alike_generations_iff_portable (tokens : Tokens) (profile : Option Profile) :
    (∀ value : Value, value.Portable ↔ ∀ card personal,
      SignInPredicate.evaluate (.v2 tokens profile) value =
        SignInPredicate.evaluate (.v3 (some tokens) profile card personal) value) ∧
    ∀ tree : ContentTree,
      (∀ rule ∈ tree.rules, rule.type.kind = .signIn → rule.value.Portable) →
        ∀ (caller : Caller) (card : Option Card) (personal : Option PersonalData),
          tree.assemble (caller.withSignIn (.v2 tokens profile)) =
            tree.assemble (caller.withSignIn (.v3 (some tokens) profile card personal)) := by
  constructor
  · intro value
    exact ⟨fun portable card personal =>
        SignInPredicate.evaluate_of_portable tokens profile card personal portable,
      SignInPredicate.portable_of_evaluate tokens profile⟩
  · intro tree portable caller card personal
    apply ContentTree.assemble_eq_of_rules
    intro rule member
    rw [Rule.lets, Rule.lets]
    cases kind : rule.type.kind with
    | signIn =>
        have decided := SignInPredicate.evaluate_of_portable tokens profile card personal
          (portable rule member kind)
        simp only [RuleKind.lets, Caller.withSignIn, decided]
    | _ => rfl

/-- Asks for a card number as well, which the second generation does not know. -/
def cardOrLogin : Value :=
  .map [("iCardNum", .number (.ofInt 1)), ("loggedIn", .bool true), ("phoneLoggedIn", .null)]

def memberTree : ContentTree :=
  ⟨[⟨1, "home", [⟨1, "news", 1, [⟨1, ⟨3, .signIn⟩, cardOrLogin⟩]⟩]⟩]⟩

theorem memberTree_alike_generations :
    cardOrLogin.Portable ∧
      memberTree.assemble (Caller.anonymous.withSignIn (.v2 ⟨some "t", none, none, none⟩ none)) =
        memberTree.assemble (Caller.anonymous.withSignIn
          (.v3 (some ⟨some "t", none, none, none⟩) none (some ⟨some "17", none⟩) none)) := by
  have portable : cardOrLogin.Portable :=
    .inr (.inl ⟨.loggedIn, by decide, .bool true, rfl, nofun⟩)
  have all : ∀ rule ∈ memberTree.rules, rule.type.kind = .signIn → rule.value.Portable := by
    intro rule member _
    rw [List.mem_singleton.mp member]
    exact portable
  exact ⟨portable, (alike_generations_iff_portable _ none).2 memberTree all _ _ none⟩

end SignIn

end Audience
