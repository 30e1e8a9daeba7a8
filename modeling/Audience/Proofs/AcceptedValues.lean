import Audience.Content.Report
import Audience.Proofs.RejectedValues

namespace Audience

/-! Values that rules can be made of.

A value is checked when it is offered under the name of a kind, when a rule is made of it, and when
a report is made of stored rules.  The checks agree, and a match finds in a value that passes them
all that it looks for.
-/

namespace SignInPredicate

variable {predicate : SignInPredicate} {signIn : SignIn} {wanted value : Value}

theorem Takes.exists_decided (takes : predicate.Takes wanted) (signIn : SignIn) :
    ∃ matched, decide signIn predicate wanted = .ok matched := by
  rw [Takes] at takes
  rw [decide]
  cases text : predicate.takesText with
  | true =>
      rw [text, if_pos rfl, Option.isSome_iff_exists] at takes
      obtain ⟨content, viewed⟩ := takes
      exact ⟨signIn.matchesText content predicate, by simp only [if_pos, viewed]⟩
  | false =>
      simp only [text, Bool.false_eq_true, if_false, Option.isSome_iff_exists] at takes
      obtain ⟨content, viewed⟩ := takes
      exact ⟨signIn.flag predicate == content, by simp only [Bool.false_eq_true, if_false, viewed]⟩

/-- The check knows the predicates of every generation, so whichever is the first that a payload
understands can be asked. -/
theorem exists_evaluated (sound : valueProblem? value = none) (signIn : SignIn) :
    ∃ matched, evaluate signIn value = .ok matched := by
  cases value with
  | map entries =>
      rw [valueProblem?_map_eq_none_iff] at sound
      simp only [evaluate, Value.map?]
      cases selected : select (understood signIn.version) entries with
      | none => exact ⟨false, rfl⟩
      | some chosen =>
          obtain ⟨predicate, wanted⟩ := chosen
          have first := select_eq_some_iff.mp selected
          exact (sound predicate wanted first.asked).exists_decided signIn
  | _ => simp [valueProblem?, Value.map?] at sound

end SignInPredicate

namespace RuleKind

/-- A match finds in a value what it looks for, so it takes no way out for an unfit shape. -/
def Finds (kind : RuleKind) (value : Value) : Prop :=
  match kind with
  | roles => value.text?.isSome ∨ value.list?.isSome
  | privacy => value.number?.isSome
  | signIn => ∀ signIn, ∃ matched, SignInPredicate.evaluate signIn value = .ok matched
  | loyalty => ((value.get? housingKey).bind Value.bool?).isSome
  | enable => value.bool?.isSome
  | platform => ((value.get? osKey).bind Value.text?).isSome

variable {kind : RuleKind} {value : Value}

theorem registered_kind (kind : RuleKind) : (RuleType.registered kind).kind = kind := by
  cases kind <;> decide

theorem check_ok_iff : kind.check value = .ok () ↔ kind.accepts value = true := by
  rw [check, accepts]
  cases kind.valueProblem? value <;> simp

theorem finds_of_accepts (accepted : kind.accepts value = true) : kind.Finds value := by
  cases kind with
  | roles =>
      cases value with
      | text _ => exact .inl rfl
      | list _ => exact .inr rfl
      | _ => simp [accepts, valueProblem?] at accepted
  | enable =>
      cases value with
      | bool _ => rfl
      | _ => simp [accepts, valueProblem?] at accepted
  | privacy =>
      obtain ⟨level, rfl, _⟩ := accepts_privacy_iff.mp accepted
      rfl
  | signIn =>
      intro signIn
      exact SignInPredicate.exists_evaluated (Option.isNone_iff_eq_none.mp accepted) signIn
  | loyalty => exact requiredEntryProblem?_eq_none_iff.mp (Option.isNone_iff_eq_none.mp accepted)
  | platform => exact requiredEntryProblem?_eq_none_iff.mp (Option.isNone_iff_eq_none.mp accepted)

end RuleKind

/-- The rules that a report lists have values that do not suit them. -/
theorem Catalog.accepts_eq_false_of_listed {catalog : Catalog} {version : VersionReport}
    {problem : InvalidRule} (reported : version ∈ (Catalog.report catalog).versions)
    (listed : problem ∈ version.invalidRules) :
    problem.rule.type.kind.accepts problem.rule.value = false := by
  obtain ⟨⟨name, tree⟩, _, rfl⟩ := List.mem_map.mp reported
  obtain ⟨rule, _, found⟩ := List.mem_filterMap.mp listed
  have same : problem.rule = rule := by
    rw [Rule.invalid?] at found
    cases checked : rule.check with
    | ok _ => simp [checked] at found
    | error error =>
        rw [checked] at found
        cases found
        rfl
  rw [same, ← Bool.not_eq_true, ← Rule.invalid?_eq_none_iff, found]
  simp

namespace RuleType

variable {name : String} {kind : RuleKind} {value : Value}

/-- Under the name of a kind a value is checked as it is when a rule is made of it. -/
theorem validate_name (kind : RuleKind) (value : Value) :
    validate kind.name value = (kind.check value).map fun _ => registered kind := by
  simp only [validate, RuleKind.ofName, RuleKind.ofName?_name, bind, Except.bind, Except.map]

theorem make_eq (id typeId : Int64) : Rule.make id ⟨typeId, kind⟩ value =
    (kind.check value).map fun _ => ⟨id, ⟨typeId, kind⟩, value⟩ := rfl

theorem validate_ok_iff {type : RuleType} : validate name value = .ok type ↔
    ∃ kind : RuleKind, kind.name = name ∧ kind.accepts value = true ∧ registered kind = type := by
  constructor
  · intro validated
    cases known : RuleKind.ofName? name with
    | none => simp [validate, RuleKind.ofName, known, bind, Except.bind] at validated
    | some kind =>
        obtain rfl := RuleKind.name_of_ofName? known
        rw [validate_name] at validated
        cases checked : kind.check value with
        | error refused => simp [checked, Except.map] at validated
        | ok _ =>
            rw [checked] at validated
            cases validated
            exact ⟨kind, rfl, RuleKind.check_ok_iff.mp checked, rfl⟩
  · intro suits
    obtain ⟨kind, rfl, accepted, rfl⟩ := suits
    rw [validate_name, RuleKind.check_ok_iff.mpr accepted]
    rfl

theorem exists_make_iff {id typeId : Int64} :
    (∃ rule, Rule.make id ⟨typeId, kind⟩ value = .ok rule) ↔ kind.accepts value = true := by
  rw [make_eq, ← RuleKind.check_ok_iff]
  cases kind.check value <;> simp [Except.map]

/-- A name takes the values that rules of its kind can be made of, and refuses the others for the
reason that making a rule does.  A value that it takes is never listed in a report, whatever else
is stored, and a match finds in it what it looks for. -/
theorem validate_ok_iff_makes (name : String) (value : Value) :
    (∀ id typeId, (∃ type, validate name value = .ok type) ↔
      ∃ kind rule, kind.name = name ∧ Rule.make id ⟨typeId, kind⟩ value = .ok rule) ∧
    (∀ kind id typeId, kind.name = name → ∀ error,
      validate name value = .error error ↔ Rule.make id ⟨typeId, kind⟩ value = .error error) ∧
    ∀ type, validate name value = .ok type → type.kind.name = name ∧ type.kind.Finds value ∧
      ∀ catalog, ∀ report ∈ (Catalog.report catalog).versions,
        ∀ problem ∈ report.invalidRules,
          ¬(problem.rule.type.kind = type.kind ∧ problem.rule.value = value) := by
  refine ⟨fun id typeId => ?_, fun kind id typeId named error => ?_, fun type validated => ?_⟩
  · simp only [validate_ok_iff]
    constructor
    · intro suits
      obtain ⟨_, kind, named, accepted, _⟩ := suits
      obtain ⟨rule, made⟩ := exists_make_iff.mpr accepted
      exact ⟨kind, rule, named, made⟩
    · intro makes
      obtain ⟨kind, rule, named, made⟩ := makes
      exact ⟨registered kind, kind, named, exists_make_iff.mp ⟨rule, made⟩, rfl⟩
  · subst named
    rw [validate_name, make_eq]
    cases kind.check value <;> simp [Except.map]
  · obtain ⟨kind, named, accepted, rfl⟩ := validate_ok_iff.mp validated
    rw [RuleKind.registered_kind]
    refine ⟨named, RuleKind.finds_of_accepts accepted, ?_⟩
    intro catalog report reported problem listed same
    have refused := Catalog.accepts_eq_false_of_listed reported listed
    rw [same.1, same.2, accepted] at refused
    cases refused

/-- Asks for a card; a null, a key of no predicate and a group count for nothing in some or all
generations. -/
def cardHolder : Value :=
  .map [("documentType", .null), ("iCardNum", .bool true), ("nickname", .number (.ofInt 1)),
    ("shibbolethMemberOf", .text "staff")]

theorem validate_cardHolder :
    validate "auth" cardHolder = .ok ⟨3, .signIn⟩ ∧
      (∃ rule, Rule.make 7 ⟨9, .signIn⟩ cardHolder = .ok rule) ∧
      (∀ signIn, ∃ matched, SignInPredicate.evaluate signIn cardHolder = .ok matched) ∧
      ∃ refused, validate "auth" RuleKind.mistypedCard = .error refused ∧
        Rule.make 7 ⟨9, .signIn⟩ RuleKind.mistypedCard = .error refused := by
  have validated : validate "auth" cardHolder = .ok ⟨3, .signIn⟩ := by
    rfl
  obtain ⟨makes, _, found⟩ := validate_ok_iff_makes "auth" cardHolder
  obtain ⟨kind, rule, named, made⟩ := (makes 7 9).mp ⟨_, validated⟩
  cases kind with
  | signIn =>
      refine ⟨validated, ⟨rule, made⟩, (found _ validated).2.1, _, rfl, ?_⟩
      exact ((validate_ok_iff_makes "auth" RuleKind.mistypedCard).2.1 .signIn 7 9 rfl _).mp rfl
  | _ => simp [RuleKind.name] at named

end RuleType

end Audience
