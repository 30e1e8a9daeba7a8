import Audience.Proofs.Generations
import Audience.Proofs.RejectedValues
import Audience.Proofs.SortedMaps
import Mathlib.Logic.Relation

namespace Audience

/-! What a rule on the sign-in comes to.

Of the predicates that a payload understands the first that a map asks for decides alone.  It is
asked of the sign-in with its own value, and no other entry of the map plays a part as long as none
asks for a predicate that stands before it.
-/

namespace Tokens

variable {tokens : Tokens}

theorem hasAll_iff : tokens.hasAll = true ↔
    ∃ id access refresh phone, tokens = ⟨some id, some access, some refresh, phone⟩ := by
  obtain ⟨id, access, refresh, phone⟩ := tokens
  cases id <;> cases access <;> cases refresh <;> simp [hasAll]

theorem byPhone_iff : tokens.byPhone = true ↔
    ∃ id phone, tokens = ⟨some id, none, none, some phone⟩ ∧ phone ≠ "" := by
  obtain ⟨id, access, refresh, phone⟩ := tokens
  cases id <;> cases access <;> cases refresh <;> cases phone <;> simp [byPhone]

end Tokens

namespace SignIn

/-- The flag predicates that are true of a sign-in. -/
inductive Fact : SignIn → SignInPredicate → Prop where
  | uin {uin : String} : Fact (.v1 (some uin)) .shibbolethLoggedIn
  | allTokens {signIn : SignIn} {id access refresh : String} {phone : Option String}
      (sent : signIn.tokens? = some ⟨some id, some access, some refresh, phone⟩) :
      Fact signIn .shibbolethLoggedIn
  | idToken {signIn : SignIn} {tokens : Tokens} {id : String}
      (sent : signIn.tokens? = some tokens) (present : tokens.idToken = some id) :
      Fact signIn .loggedIn
  | byPhone {signIn : SignIn} {id phone : String}
      (sent : signIn.tokens? = some ⟨some id, none, none, some phone⟩) (filled : phone ≠ "") :
      Fact signIn .phoneLoggedIn
  | approver {signIn : SignIn} {profile : Profile} (sent : signIn.profile? = some profile)
      (member : eventApproversGroup ∈ profile.groups) : Fact signIn .eventEditor
  | card {signIn : SignIn} {card : Card} {number : String} (sent : signIn.card? = some card)
      (present : card.cardNumber = some number) (filled : number ≠ "") : Fact signIn .cardNumber
  | library {signIn : SignIn} {card : Card} {number : String} (sent : signIn.card? = some card)
      (present : card.libraryNumber = some number) (filled : number ≠ "") :
      Fact signIn .libraryNumber

/-- The text predicates that are true of a sign-in, with their texts. -/
inductive Bears : SignIn → SignInPredicate → String → Prop where
  | group {signIn : SignIn} {profile : Profile} {group : String}
      (sent : signIn.profile? = some profile) (member : group ∈ profile.groups) :
      Bears signIn .shibbolethMemberOf group
  | document {signIn : SignIn} {kind : String} (sent : signIn.personal? = some ⟨some kind⟩) :
      Bears signIn .documentType kind

variable {signIn : SignIn} {predicate : SignInPredicate} {wanted : String}

theorem isMemberOf_eq_true_iff {group : String} : signIn.isMemberOf group = true ↔
    ∃ profile, signIn.profile? = some profile ∧ group ∈ profile.groups := by
  simp [isMemberOf, Option.any_eq_true]

theorem flag_shibbolethLoggedIn_iff : signIn.flag .shibbolethLoggedIn = true ↔
    (∃ uin, signIn = .v1 (some uin)) ∨
      ∃ tokens, signIn.tokens? = some tokens ∧ tokens.hasAll = true := by
  cases signIn with
  -- The first generation sends no tokens, so its number alone counts.
  | v1 uin => simp [flag, tokens?, Option.isSome_iff_exists]
  | v2 tokens profile => simp [flag, tokens?]
  | v3 tokens profile card personal => simp [flag, tokens?, Option.any_eq_true]

theorem flag_iff : signIn.flag predicate = true ↔ signIn.Fact predicate := by
  constructor
  · intro holds
    cases predicate with
    | shibbolethLoggedIn =>
        rcases flag_shibbolethLoggedIn_iff.mp holds with ⟨uin, rfl⟩ | ⟨tokens, sent, all⟩
        · exact .uin
        · obtain ⟨id, access, refresh, phone, rfl⟩ := Tokens.hasAll_iff.mp all
          exact .allTokens sent
    | loggedIn =>
        obtain ⟨tokens, sent, present⟩ := (Option.any_eq_true _ _).mp holds
        obtain ⟨id, present⟩ := Option.isSome_iff_exists.mp present
        exact .idToken sent present
    | phoneLoggedIn =>
        obtain ⟨tokens, sent, byPhone⟩ := (Option.any_eq_true _ _).mp holds
        obtain ⟨id, phone, rfl, filled⟩ := Tokens.byPhone_iff.mp byPhone
        exact .byPhone sent filled
    | eventEditor =>
        obtain ⟨profile, sent, member⟩ := isMemberOf_eq_true_iff.mp holds
        exact .approver sent member
    | cardNumber =>
        obtain ⟨card, sent, number⟩ := (Option.any_eq_true _ _).mp holds
        obtain ⟨number, present, filled⟩ := (Option.any_eq_true _ _).mp number
        exact .card sent present (by simpa using filled)
    | libraryNumber =>
        obtain ⟨card, sent, number⟩ := (Option.any_eq_true _ _).mp holds
        obtain ⟨number, present, filled⟩ := (Option.any_eq_true _ _).mp number
        exact .library sent present (by simpa using filled)
    | shibbolethMemberOf => contradiction
    | documentType => contradiction
  · intro fact
    cases fact with
    | uin => rfl
    | allTokens sent => simp [flag_shibbolethLoggedIn_iff, sent, Tokens.hasAll]
    | idToken sent present => simp [flag, sent, present]
    | byPhone sent filled => simp [flag, sent, Tokens.byPhone, filled]
    | approver sent member => exact isMemberOf_eq_true_iff.mpr ⟨_, sent, member⟩
    | card sent present filled => simp [flag, sent, present, filled]
    | library sent present filled => simp [flag, sent, present, filled]

theorem matchesText_iff :
    signIn.matchesText wanted predicate = true ↔ signIn.Bears predicate wanted := by
  constructor
  · intro holds
    cases predicate with
    | shibbolethMemberOf =>
        obtain ⟨profile, sent, member⟩ := isMemberOf_eq_true_iff.mp holds
        exact .group sent member
    | documentType =>
        obtain ⟨⟨kind⟩, sent, same⟩ := (Option.any_eq_true _ _).mp holds
        cases eq_of_beq same
        exact .document sent
    | _ => contradiction
  · intro bears
    cases bears with
    | group sent member => exact isMemberOf_eq_true_iff.mpr ⟨_, sent, member⟩
    | document sent => simp [matchesText, sent]

end SignIn

namespace SignInPredicate

/-- What the predicate that counts comes to, by what is wanted of it. -/
inductive Decides (signIn : SignIn) :
    SignInPredicate → Value → Except SignInMismatch Bool → Prop where
  | flag {predicate : SignInPredicate} {wanted matched : Bool}
      (takesFlag : predicate.takesText = false)
      (compared : matched = true ↔ (signIn.Fact predicate ↔ wanted = true)) :
      Decides signIn predicate (.bool wanted) (.ok matched)
  | text {predicate : SignInPredicate} {wanted : String} {matched : Bool}
      (takesText : predicate.takesText = true)
      (compared : matched = true ↔ signIn.Bears predicate wanted) :
      Decides signIn predicate (.text wanted) (.ok matched)
  | mistyped {predicate : SignInPredicate} {wanted : Value} (wrong : ¬predicate.Takes wanted) :
      Decides signIn predicate wanted (.error (.wrongType predicate wanted.shape))

/-- What a map comes to. -/
inductive Answers (signIn : SignIn) (entries : List (String × Value)) :
    Except SignInMismatch Bool → Prop where
  | unasked (none : ∀ predicate ∈ understood signIn.version,
      ¬Value.Asks (.map entries) predicate.key) : Answers signIn entries (.ok false)
  | asked {predicate : SignInPredicate} {wanted : Value} {outcome : Except SignInMismatch Bool}
      (first : First (understood signIn.version) entries predicate wanted)
      (decides : Decides signIn predicate wanted outcome) : Answers signIn entries outcome

/-- Both are among the predicates, the first of them earlier. -/
def Outranks (predicates : List SignInPredicate) (first second : SignInPredicate) : Prop :=
  [first, second].Sublist predicates

/-- One entry is set or removed that the chosen predicate does not need. -/
inductive Edit (predicates : List SignInPredicate) (chosen : SignInPredicate)
    (entries : List (String × Value)) : List (String × Value) → Prop where
  | set {key : String} {value : Value} (other : key ≠ chosen.key)
      (harmless : value = .null ∨ ∀ first, Outranks predicates first chosen → first.key ≠ key) :
      Edit predicates chosen entries (Sorted.insertKey key value entries)
  | remove {key : String} (other : key ≠ chosen.key) :
      Edit predicates chosen entries (entries.filter fun entry => entry.1 ≠ key)

variable {signIn : SignIn} {predicates : List SignInPredicate} {predicate chosen : SignInPredicate}
  {wanted : Value} {entries others : List (String × Value)} {outcome : Except SignInMismatch Bool}

theorem decides_decide (signIn : SignIn) (predicate : SignInPredicate) (wanted : Value) :
    Decides signIn predicate wanted (decide signIn predicate wanted) := by
  -- All shapes but the one that a predicate takes are refused alike.
  have mistyped (wrong : ¬predicate.Takes wanted)
      (same : decide signIn predicate wanted = .error (.wrongType predicate wanted.shape)) :
      Decides signIn predicate wanted (decide signIn predicate wanted) := by
    rw [same]
    exact .mistyped wrong
  cases takes : predicate.takesText with
  | true =>
      cases wanted with
      | text wanted =>
          simp only [decide, takes, if_true, Value.text?]
          exact .text takes SignIn.matchesText_iff
      | _ =>
          refine mistyped ?_ ?_
          · simp [Takes, takes, Value.text?]
          · simp [decide, takes, Value.text?]
  | false =>
      cases wanted with
      | bool wanted =>
          simp only [decide, takes, Value.bool?]
          refine .flag takes ?_
          rw [← SignIn.flag_iff, beq_iff_eq]
          exact Bool.eq_iff_iff
      | _ =>
          refine mistyped ?_ ?_
          · simp [Takes, takes, Value.bool?]
          · simp [decide, takes, Value.bool?]

theorem Decides.unique {other : Except SignInMismatch Bool}
    (first : Decides signIn predicate wanted outcome)
    (second : Decides signIn predicate wanted other) : outcome = other := by
  cases first with
  | flag takesFlag compared =>
      cases second with
      | flag _ otherCompared => rw [Bool.eq_iff_iff.mpr (compared.trans otherCompared.symm)]
      | mistyped wrong => simp [Takes, takesFlag, Value.bool?] at wrong
  | text takesText compared =>
      cases second with
      | text _ otherCompared => rw [Bool.eq_iff_iff.mpr (compared.trans otherCompared.symm)]
      | mistyped wrong => simp [Takes, takesText, Value.text?] at wrong
  | mistyped wrong =>
      cases second with
      | flag takesFlag _ => simp [Takes, takesFlag, Value.bool?] at wrong
      | text takesText _ => simp [Takes, takesText, Value.text?] at wrong
      | mistyped _ => rfl

theorem decide_eq_iff :
    decide signIn predicate wanted = outcome ↔ Decides signIn predicate wanted outcome := by
  constructor
  · rintro rfl
    exact decides_decide signIn predicate wanted
  · exact (decides_decide signIn predicate wanted).unique

theorem evaluate_map_of_unasked (unasked : ∀ predicate ∈ understood signIn.version,
    ¬Value.Asks (.map entries) predicate.key) : evaluate signIn (.map entries) = .ok false := by
  simp only [evaluate, Value.map?, select_eq_none_iff.mpr unasked]

theorem evaluate_map_eq_iff :
    evaluate signIn (.map entries) = outcome ↔ Answers signIn entries outcome := by
  constructor
  · rintro rfl
    cases selected : select (understood signIn.version) entries with
    | none =>
        have unasked := select_eq_none_iff.mp selected
        rw [evaluate_map_of_unasked unasked]
        exact .unasked unasked
    | some found =>
        have first := select_eq_some_iff.mp selected
        rw [evaluate_map_of_first first]
        exact .asked first (decides_decide signIn found.1 found.2)
  · intro answers
    cases answers with
    | unasked none => exact evaluate_map_of_unasked none
    | asked first decides => exact (evaluate_map_of_first first).trans (decide_eq_iff.mpr decides)

/-- The first predicate stays the first when its own entry stays and those before it still ask for
nothing. -/
theorem First.transfer (first : First predicates entries chosen wanted)
    (kept : named? others chosen = named? entries chosen)
    (quiet : ∀ other, Outranks predicates other chosen → named? entries other = none →
      named? others other = none) : First predicates others chosen wanted := by
  obtain ⟨asked, before, after, rfl, earlier⟩ := first
  refine ⟨kept.trans asked, before, after, rfl, fun other member => ?_⟩
  apply quiet other _ (earlier other member)
  exact (List.singleton_sublist.mpr member).append (List.singleton_sublist.mpr List.mem_cons_self)

theorem named?_insertKey {key : String} {value : Value} :
    named? (Sorted.insertKey key value entries) predicate =
      if predicate.key = key then (some value).filter fun value => !value.isNull
      else named? entries predicate := by
  rw [named?, Sorted.lookup_insertKey]
  split <;> rfl

theorem named?_filter_ne {key : String} :
    named? (entries.filter fun entry => entry.1 ≠ key) predicate =
      if predicate.key = key then none else named? entries predicate := by
  rw [named?, Sorted.lookup_filter_ne]
  split <;> rfl

theorem First.edit (first : First predicates entries chosen wanted)
    (edit : Edit predicates chosen entries others) : First predicates others chosen wanted := by
  cases edit with
  | @set key value other harmless =>
      refine first.transfer ?_ fun outranking outranks unasked => ?_
      · rw [named?_insertKey, if_neg other.symm]
      · rw [named?_insertKey]
        split
        next same =>
          -- What is set for a predicate before the chosen one is null and asks for nothing.
          rcases harmless with rfl | outranked
          · rfl
          · exact absurd same (outranked outranking outranks)
        next => exact unasked
  | @remove key other =>
      refine first.transfer ?_ fun outranking _ unasked => ?_
      · rw [named?_filter_ne, if_neg other.symm]
      · rw [named?_filter_ne, unasked, ite_self]

theorem First.edits (first : First predicates entries chosen wanted)
    (edits : Relation.ReflTransGen (Edit predicates chosen) entries others) :
    First predicates others chosen wanted := by
  induction edits with
  | refl => exact first
  | tail _ edit ih => exact ih.edit edit

/-- A map comes to what its first understood predicate comes to.  Maps with the same first
predicate and the same value for it come to the same, and however often other entries are set or
removed, it stays the first as long as none before it is asked for. -/
theorem evaluate_map_settled (signIn : SignIn) (entries : List (String × Value)) :
    (∀ outcome, evaluate signIn (.map entries) = outcome ↔ Answers signIn entries outcome) ∧
      ∀ chosen wanted, First (understood signIn.version) entries chosen wanted →
        (∀ others, First (understood signIn.version) others chosen wanted →
          evaluate signIn (.map others) = evaluate signIn (.map entries)) ∧
        ∀ others, Relation.ReflTransGen (Edit (understood signIn.version) chosen) entries others →
          evaluate signIn (.map others) = evaluate signIn (.map entries) := by
  refine ⟨fun outcome => evaluate_map_eq_iff, fun chosen wanted first => ?_⟩
  have same (others : List (String × Value))
      (second : First (understood signIn.version) others chosen wanted) :
      evaluate signIn (.map others) = evaluate signIn (.map entries) :=
    (evaluate_map_of_first second).trans (evaluate_map_of_first first).symm
  exact ⟨same, fun others edits => same others (first.edits edits)⟩

/-- A null comes before the sign-in that is asked for; behind it come a telephone asked for wrongly
and a card that the second generation does not know. -/
def passedOver : List (String × Value) :=
  [("iCardNum", .bool false), ("loggedIn", .bool true), ("phoneLoggedIn", .text "yes"),
    ("shibbolethLoggedIn", .null)]

def idTokenOnly : SignIn := .v2 ⟨some "t", none, none, none⟩ none

theorem passedOver_settled :
    First (understood .v2) passedOver .loggedIn (.bool true) ∧
      evaluate idTokenOnly (.map passedOver) = .ok true ∧
        evaluate idTokenOnly (.map (Sorted.insertKey "phoneLoggedIn" (.bool true)
          (passedOver.filter fun entry => entry.1 ≠ "shibbolethLoggedIn"))) = .ok true := by
  have first : First (understood .v2) passedOver .loggedIn (.bool true) := by
    refine ⟨rfl, [.shibbolethLoggedIn],
      [.phoneLoggedIn, .eventEditor, .shibbolethMemberOf], rfl, ?_⟩
    simp [named?, passedOver, Sorted.lookup, key, Value.isNull]
  have settled := evaluate_map_settled idTokenOnly passedOver
  have matched : evaluate idTokenOnly (.map passedOver) = .ok true := by
    have fact : idTokenOnly.Fact .loggedIn := .idToken rfl rfl
    exact (settled.1 _).mpr (.asked first (.flag rfl (by simpa using fact)))
  have behind : ∀ other, Outranks (understood .v2) other .loggedIn →
      other.key ≠ "phoneLoggedIn" := by
    intro other outranks
    cases other with
    | phoneLoggedIn => exact absurd outranks (by rw [Outranks]; decide)
    | _ => decide
  have nullRemoved : Edit (understood .v2) .loggedIn passedOver
      (passedOver.filter fun entry => entry.1 ≠ "shibbolethLoggedIn") := .remove (by decide)
  have unchanged := (settled.2 _ _ first).2
  refine ⟨first, matched, Eq.trans (unchanged _ ?_) matched⟩
  exact (Relation.ReflTransGen.single nullRemoved).tail (.set (by decide) (.inr behind))

end SignInPredicate

end Audience
