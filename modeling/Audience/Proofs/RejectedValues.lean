import Audience.Rule.Kind

namespace Audience

/-! Values that are refused when a rule is made but let a caller through when they are there.

Except for role expressions only two kinds of rule have such values: levels that are no finite
numbers, and maps of which the predicate that counts is asked rightly and another one wrongly.
-/

namespace SignInPredicate

/-- Whether a predicate can be asked with a value. -/
def Takes (predicate : SignInPredicate) (wanted : Value) : Prop :=
  if predicate.takesText then wanted.text?.isSome else wanted.bool?.isSome

/-- A sign-in is as a value wants it. -/
inductive Met (signIn : SignIn) : SignInPredicate → Value → Prop where
  | text {predicate : SignInPredicate} {wanted : String} (takesText : predicate.takesText = true)
      (holds : signIn.matchesText wanted predicate = true) : Met signIn predicate (.text wanted)
  | flag {predicate : SignInPredicate} {wanted : Bool} (takesFlag : predicate.takesText = false)
      (holds : signIn.flag predicate = wanted) : Met signIn predicate (.bool wanted)

/-- A predicate is the first of some that a map asks for. -/
structure First (predicates : List SignInPredicate) (entries : List (String × Value))
    (predicate : SignInPredicate) (wanted : Value) : Prop where
  asked : named? entries predicate = some wanted
  earlier : ∃ before after, predicates = before ++ predicate :: after ∧
    ∀ other ∈ before, named? entries other = none

variable {entries : List (String × Value)} {signIn : SignIn} {predicate : SignInPredicate}
  {wanted : Value}

theorem mem_understood_v3 (predicate : SignInPredicate) : predicate ∈ understood .v3 := by
  cases predicate <;> decide

theorem entryProblem?_eq_none_iff :
    entryProblem? entries predicate = none ↔
      ∀ wanted, named? entries predicate = some wanted → predicate.Takes wanted := by
  rw [entryProblem?]
  cases named? entries predicate with
  | none => simp
  | some wanted =>
      cases text : predicate.takesText with
      | true => simp [Takes, text, Option.isSome_iff_ne_none]
      | false => simp [Takes, text, Option.isSome_iff_ne_none]

theorem valueProblem?_map_eq_none_iff :
    valueProblem? (.map entries) = none ↔
      ∀ predicate wanted, named? entries predicate = some wanted → predicate.Takes wanted := by
  simp [valueProblem?, Value.map?, entryProblem?_eq_none_iff, mem_understood_v3]

theorem select_eq_some_iff {predicates : List SignInPredicate} :
    select predicates entries = some (predicate, wanted) ↔
      First predicates entries predicate wanted := by
  rw [select, List.findSome?_eq_some_iff]
  constructor
  · intro found
    obtain ⟨before, chosen, after, parts, asked, earlier⟩ := found
    simp only [Option.map_eq_some_iff, Prod.mk.injEq] at asked
    obtain ⟨_, asked, rfl, rfl⟩ := asked
    exact ⟨asked, before, after, parts, by simpa using earlier⟩
  · intro first
    obtain ⟨asked, before, after, parts, earlier⟩ := first
    exact ⟨before, predicate, after, parts, by simp [asked], by simpa using earlier⟩

theorem evaluate_map_of_first (first : First (understood signIn.version) entries predicate wanted) :
    evaluate signIn (.map entries) = decide signIn predicate wanted := by
  simp only [evaluate, Value.map?, select_eq_some_iff.mpr first]

theorem decide_eq_true_iff : decide signIn predicate wanted = .ok true ↔
    Met signIn predicate wanted := by
  constructor
  · intro decided
    rw [decide] at decided
    cases text : predicate.takesText with
    | true =>
        cases wanted with
        | text wanted => exact .text text (by simpa [text, Value.text?] using decided)
        | _ => simp [text, Value.text?] at decided
    | false =>
        cases wanted with
        | bool wanted => exact .flag text (by simpa [text, Value.bool?] using decided)
        | _ => simp [text, Value.bool?] at decided
  · intro met
    cases met with
    | text text holds => simp [decide, text, Value.text?, holds]
    | flag text holds => simp [decide, text, Value.bool?, holds]

theorem evaluate_eq_true_iff {value : Value} :
    evaluate signIn value = .ok true ↔ ∃ entries predicate wanted, value = .map entries ∧
      First (understood signIn.version) entries predicate wanted ∧
        Met signIn predicate wanted := by
  constructor
  · intro evaluated
    rw [evaluate] at evaluated
    cases value with
    | map entries =>
        simp only [Value.map?] at evaluated
        cases selected : select (understood signIn.version) entries with
        | none => simp [selected] at evaluated
        | some chosen =>
            obtain ⟨predicate, wanted⟩ := chosen
            have first := select_eq_some_iff.mp selected
            rw [selected] at evaluated
            exact ⟨entries, predicate, wanted, rfl, first, decide_eq_true_iff.mp evaluated⟩
    | _ => simp [Value.map?] at evaluated
  · intro met
    obtain ⟨entries, predicate, wanted, rfl, first, met⟩ := met
    rw [evaluate_map_of_first first]
    exact decide_eq_true_iff.mpr met

end SignInPredicate

/-- Nothing is wrong with a required entry just when a view of it gives something. -/
theorem requiredEntryProblem?_eq_none_iff {α : Type} {value : Value} {key wanted : String}
    {view : Value → Option α} :
    requiredEntryProblem? value key wanted (fun entry => (view entry).isSome) = none ↔
      ((value.get? key).bind view).isSome := by
  rw [requiredEntryProblem?, Value.get?]
  cases value.map? with
  | none => simp
  | some entries =>
      cases found : Sorted.lookup key entries with
      | none => simp [found]
      | some entry => simp [found, Option.isSome_iff_ne_none]

namespace Number

variable {level : Number} {bound : Int64}

theorem isFinite_of_isInfinite (infinite : level.isInfinite = true) : level.isFinite = false := by
  simp only [isInfinite, isFinite, decide_eq_true_eq, decide_eq_false_iff_not] at infinite ⊢
  omega

/-- An infinite level is below every bound or above all but the largest. -/
theorem toInt64_le_iff_of_isInfinite (infinite : level.isInfinite = true) :
    level.toInt64 ≤ bound ↔ level.negative = true ∨ bound = Int64.maxValue := by
  have unbounded := isFinite_of_isInfinite infinite
  cases negative : level.negative with
  | true => simp [toInt64, unbounded, infinite, negative]
  | false => simp [toInt64, unbounded, infinite, negative]

theorem toInt64_of_isNaN (unbounded : level.isFinite = false)
    (finite : level.isInfinite = false) : level.toInt64 = 0 := by
  simp [toInt64, unbounded, finite]

end Number

namespace RuleKind

/-- The ways in which a refused value lets a caller through. -/
inductive Slips (caller : Caller) : RuleKind → Value → Prop where
  | belowAll {level : Number} {identity : Identity} (known : caller.identity = some identity)
      (infinite : level.isInfinite = true) (negative : level.negative = true) :
      Slips caller .privacy (.number level)
  | atTop {level : Number} {identity : Identity} (known : caller.identity = some identity)
      (infinite : level.isInfinite = true) (largest : identity.privacyLevel = Int64.maxValue) :
      Slips caller .privacy (.number level)
  | asZero {level : Number} {identity : Identity} (known : caller.identity = some identity)
      (unbounded : level.isFinite = false) (finite : level.isInfinite = false)
      (nonnegative : 0 ≤ identity.privacyLevel) : Slips caller .privacy (.number level)
  /-- The predicate that counts is met, and another one is asked with a value it cannot take. -/
  | overlooked {signIn : SignIn} {entries : List (String × Value)}
      {chosen other : SignInPredicate} {wanted found : Value}
      (present : caller.signIn = some signIn)
      (first : SignInPredicate.First (SignInPredicate.understood signIn.version)
        entries chosen wanted)
      (met : SignInPredicate.Met signIn chosen wanted)
      (asked : SignInPredicate.named? entries other = some found) (wrong : ¬other.Takes found) :
      Slips caller .signIn (.map entries)

variable {kind : RuleKind} {caller : Caller} {value : Value}

theorem accepts_of_lets (plain : kind = .loyalty ∨ kind = .enable ∨ kind = .platform)
    (lets : kind.lets caller value = true) : kind.accepts value = true := by
  rw [accepts, Option.isNone_iff_eq_none]
  rcases plain with rfl | rfl | rfl
  · cases found : (value.get? housingKey).bind Value.bool? with
    | none => simp [RuleKind.lets, found] at lets
    | some wanted => exact requiredEntryProblem?_eq_none_iff.mpr (by simp [found])
  · cases value with
    | bool flag => rfl
    | _ => simp [RuleKind.lets, Value.bool?] at lets
  · cases found : (value.get? osKey).bind Value.text? with
    | none => simp [RuleKind.lets, found] at lets
    | some wanted => exact requiredEntryProblem?_eq_none_iff.mpr (by simp [found])

theorem accepts_privacy_iff : RuleKind.privacy.accepts value = true ↔
    ∃ level, value = .number level ∧ level.isFinite = true := by
  cases value with
  | number level => cases finite : level.isFinite <;> simp [accepts, valueProblem?, finite]
  | _ => simp [accepts, valueProblem?]

theorem lets_privacy_iff : RuleKind.privacy.lets caller value = true ↔
    ∃ level identity, value = .number level ∧ caller.identity = some identity ∧
      level.toInt64 ≤ identity.privacyLevel := by
  cases value with
  | number level => simp [lets, Value.number?, Option.any_eq_true]
  | _ => simp [lets, Value.number?]

theorem refuses_signIn_map_iff {entries : List (String × Value)} :
    RuleKind.signIn.accepts (.map entries) = false ↔ ∃ predicate found,
      SignInPredicate.named? entries predicate = some found ∧ ¬predicate.Takes found := by
  rw [← Bool.not_eq_true, accepts, Option.isNone_iff_eq_none, valueProblem?,
    SignInPredicate.valueProblem?_map_eq_none_iff]
  simp only [Classical.not_forall, exists_prop]

theorem lets_signIn_iff : RuleKind.signIn.lets caller value = true ↔
    ∃ signIn, caller.signIn = some signIn ∧
      SignInPredicate.evaluate signIn value = .ok true := by
  rw [lets]
  cases caller.signIn with
  | none => simp
  | some signIn =>
      cases evaluated : SignInPredicate.evaluate signIn value with
      | error mismatch => simp [Except.toOption, evaluated]
      | ok matched => simp [Except.toOption, evaluated]

theorem slips_privacy_iff : Slips caller .privacy value ↔
    RuleKind.privacy.accepts value = false ∧ RuleKind.privacy.lets caller value = true := by
  rw [← Bool.not_eq_true, accepts_privacy_iff, lets_privacy_iff]
  constructor
  · intro slips
    cases slips with
    | @belowAll level identity known infinite negative =>
        exact ⟨by simp [Number.isFinite_of_isInfinite infinite], level, identity, rfl, known,
          (Number.toInt64_le_iff_of_isInfinite infinite).mpr (.inl negative)⟩
    | @atTop level identity known infinite largest =>
        exact ⟨by simp [Number.isFinite_of_isInfinite infinite], level, identity, rfl, known,
          (Number.toInt64_le_iff_of_isInfinite infinite).mpr (.inr largest)⟩
    | @asZero level identity known unbounded finite nonnegative =>
        refine ⟨by simp [unbounded], level, identity, rfl, known, ?_⟩
        rw [Number.toInt64_of_isNaN unbounded finite]
        exact nonnegative
  · intro both
    obtain ⟨refused, level, identity, rfl, known, reached⟩ := both
    have unbounded : level.isFinite = false := by
      simpa using refused
    cases infinite : level.isInfinite with
    | true =>
        rcases (Number.toInt64_le_iff_of_isInfinite infinite).mp reached with negative | largest
        · exact .belowAll known infinite negative
        · exact .atTop known infinite largest
    | false =>
        rw [Number.toInt64_of_isNaN unbounded infinite] at reached
        exact .asZero known unbounded infinite reached

theorem slips_signIn_iff : Slips caller .signIn value ↔
    RuleKind.signIn.accepts value = false ∧ RuleKind.signIn.lets caller value = true := by
  rw [lets_signIn_iff]
  constructor
  · intro slips
    cases slips with
    | @overlooked signIn entries chosen other wanted found present first met asked wrong =>
        exact ⟨refuses_signIn_map_iff.mpr ⟨other, found, asked, wrong⟩, signIn, present,
          SignInPredicate.evaluate_eq_true_iff.mpr ⟨entries, chosen, wanted, rfl, first, met⟩⟩
  · intro both
    obtain ⟨refused, signIn, present, evaluated⟩ := both
    obtain ⟨entries, chosen, wanted, rfl, first, met⟩ :=
      SignInPredicate.evaluate_eq_true_iff.mp evaluated
    obtain ⟨other, found, asked, wrong⟩ := refuses_signIn_map_iff.mp refused
    exact .overlooked present first met asked wrong

/-- Away from role expressions, the refused values that let a caller through are those that slip. -/
theorem refused_and_lets_iff_slips (kind : RuleKind) (caller : Caller) (value : Value) :
    kind ≠ .roles ∧ kind.accepts value = false ∧ kind.lets caller value = true ↔
      kind.Slips caller value := by
  have plain (settled : kind = .loyalty ∨ kind = .enable ∨ kind = .platform) :
      kind ≠ .roles ∧ kind.accepts value = false ∧ kind.lets caller value = true ↔
        kind.Slips caller value := by
    constructor
    · intro both
      have accepted := accepts_of_lets settled both.2.2
      simp [both.2.1] at accepted
    · intro slips
      cases slips <;> simp at settled
  cases kind with
  | roles =>
      refine ⟨fun both => absurd rfl both.1, fun slips => ?_⟩
      cases slips
  | privacy => simpa using slips_privacy_iff.symm
  | signIn => simpa using slips_signIn_iff.symm
  | loyalty => exact plain (.inl rfl)
  | enable => exact plain (.inr (.inl rfl))
  | platform => exact plain (.inr (.inr rfl))

/-- Asks for a sign-in rightly and for a card number wrongly. -/
def mistypedCard : Value :=
  .map [("iCardNum", .number (.ofInt 1)), ("loggedIn", .bool true)]

/-- A payload of the second generation, which knows no cards. -/
def signedIn : Caller :=
  Caller.anonymous.withSignIn (.v2 ⟨some "t", none, none, none⟩ none)

theorem mistypedCard_lets_signedIn :
    RuleKind.signIn.accepts mistypedCard = false ∧
      RuleKind.signIn.lets signedIn mistypedCard = true := by
  decide

end RuleKind

end Audience
