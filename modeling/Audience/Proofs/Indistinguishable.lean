import Mathlib.Data.List.Basic
import Audience.Content.View
import Audience.Proofs.RoleExpressions

namespace Audience

/-! What an answer can tell about a caller.

Callers are alike when they agree on the facts that rules ask for.  Alike callers see the same of
every tree, so the values of tokens, numbers, ids and names stay unknown to the answers.
-/

/-- A text is there and not empty. -/
def isFilled (text : Option String) : Bool :=
  text.any (· != "")

namespace SignIn

def hasUin : SignIn → Bool
  | v1 uin => uin.isSome
  | _ => false

/-- One of the tokens, or the number beside them. -/
def token? (signIn : SignIn) (field : Tokens → Option String) : Option String :=
  signIn.tokens?.bind field

def cardText? (signIn : SignIn) (field : Card → Option String) : Option String :=
  signIn.card?.bind field

def groups (signIn : SignIn) : List String :=
  signIn.profile?.elim [] Profile.groups

def documentType? (signIn : SignIn) : Option String :=
  signIn.personal?.bind PersonalData.documentType

/-- Sign-ins agree on their generation and on the facts that predicates ask for.  What a generation
does not have is absent on both sides. -/
structure Alike (first second : SignIn) : Prop where
  version : first.version = second.version
  uin : first.hasUin = second.hasUin
  idToken : (first.token? Tokens.idToken).isSome = (second.token? Tokens.idToken).isSome
  accessToken : (first.token? Tokens.accessToken).isSome = (second.token? Tokens.accessToken).isSome
  refreshToken :
    (first.token? Tokens.refreshToken).isSome = (second.token? Tokens.refreshToken).isSome
  phoneNumber :
    isFilled (first.token? Tokens.phoneNumber) = isFilled (second.token? Tokens.phoneNumber)
  groups : ∀ group, group ∈ first.groups ↔ group ∈ second.groups
  cardNumber :
    isFilled (first.cardText? Card.cardNumber) = isFilled (second.cardText? Card.cardNumber)
  libraryNumber :
    isFilled (first.cardText? Card.libraryNumber) = isFilled (second.cardText? Card.libraryNumber)
  documentType : first.documentType? = second.documentType?

end SignIn

/-- Identities agree on their privacy level and on their roles. -/
structure Identity.Alike (first second : Identity) : Prop where
  privacyLevel : first.privacyLevel = second.privacyLevel
  roles : ∀ role, first.roles.contains role = second.roles.contains role

/-- Callers agree on all that rules ask for. -/
structure Caller.Alike (first second : Caller) : Prop where
  identity : Option.Rel Identity.Alike first.identity second.identity
  housing : first.isHousingResident = second.isHousingResident
  os : first.os? = second.os?
  signIn : Option.Rel SignIn.Alike first.signIn second.signIn

namespace SignIn

variable {first second : SignIn}

theorem any_hasAll (signIn : SignIn) : signIn.tokens?.any Tokens.hasAll =
    ((signIn.token? Tokens.idToken).isSome && (signIn.token? Tokens.accessToken).isSome &&
      (signIn.token? Tokens.refreshToken).isSome) := by
  cases found : signIn.tokens? <;> simp [token?, found, Tokens.hasAll]

theorem any_idToken (signIn : SignIn) :
    signIn.tokens?.any (·.idToken.isSome) = (signIn.token? Tokens.idToken).isSome := by
  cases found : signIn.tokens? <;> simp [token?, found]

theorem any_byPhone (signIn : SignIn) : signIn.tokens?.any Tokens.byPhone =
    ((signIn.token? Tokens.idToken).isSome && !(signIn.token? Tokens.accessToken).isSome &&
      !(signIn.token? Tokens.refreshToken).isSome &&
      isFilled (signIn.token? Tokens.phoneNumber)) := by
  cases found : signIn.tokens? <;> simp [token?, found, Tokens.byPhone, isFilled]

theorem any_card (signIn : SignIn) (field : Card → Option String) :
    signIn.card?.any (fun card => (field card).any (· != "")) =
      isFilled (signIn.cardText? field) := by
  cases found : signIn.card? <;> simp [cardText?, found, isFilled]

theorem isMemberOf_iff (signIn : SignIn) (group : String) :
    signIn.isMemberOf group = true ↔ group ∈ signIn.groups := by
  cases found : signIn.profile? <;> simp [isMemberOf, groups, found]

theorem any_documentType (signIn : SignIn) (wanted : String) :
    signIn.personal?.any (fun personal => personal.documentType == some wanted) =
      (signIn.documentType? == some wanted) := by
  cases found : signIn.personal? <;> simp [documentType?, found]

namespace Alike

theorem isMemberOf (alike : first.Alike second) (group : String) :
    first.isMemberOf group = second.isMemberOf group := by
  rw [Bool.eq_iff_iff, isMemberOf_iff, isMemberOf_iff, alike.groups]

theorem flag_shibbolethLoggedIn (alike : first.Alike second) :
    first.flag .shibbolethLoggedIn = second.flag .shibbolethLoggedIn := by
  have tokens : first.tokens?.any Tokens.hasAll = second.tokens?.any Tokens.hasAll := by
    rw [any_hasAll, any_hasAll, alike.idToken, alike.accessToken, alike.refreshToken]
  have version := alike.version
  cases first with
  | v1 uin =>
      cases second with
      | v1 other => exact alike.uin
      | _ => simp [SignIn.version] at version
  | _ =>
      cases second with
      | v1 other => simp [SignIn.version] at version
      | _ => exact tokens

theorem flag (alike : first.Alike second) (predicate : SignInPredicate) :
    first.flag predicate = second.flag predicate := by
  cases predicate with
  | shibbolethLoggedIn => exact alike.flag_shibbolethLoggedIn
  | loggedIn => simp only [SignIn.flag, any_idToken, alike.idToken]
  | phoneLoggedIn =>
      simp only [SignIn.flag, any_byPhone, alike.idToken, alike.accessToken, alike.refreshToken,
        alike.phoneNumber]
  | eventEditor => exact alike.isMemberOf eventApproversGroup
  | cardNumber => simp only [SignIn.flag, any_card, alike.cardNumber]
  | libraryNumber => simp only [SignIn.flag, any_card, alike.libraryNumber]
  | shibbolethMemberOf => rfl
  | documentType => rfl

theorem matchesText (alike : first.Alike second) (wanted : String) (predicate : SignInPredicate) :
    first.matchesText wanted predicate = second.matchesText wanted predicate := by
  cases predicate with
  | shibbolethMemberOf => exact alike.isMemberOf wanted
  | documentType => simp only [SignIn.matchesText, any_documentType, alike.documentType]
  | _ => rfl

theorem evaluate (alike : first.Alike second) (value : Value) :
    SignInPredicate.evaluate first value = SignInPredicate.evaluate second value := by
  simp only [SignInPredicate.evaluate, SignInPredicate.decide, alike.version, alike.flag,
    alike.matchesText]

end Alike

end SignIn

theorem RoleExpression.evaluate_congr {first second : Option NameSet}
    (same : ∀ role, holds first role = holds second role) (value : Value) :
    evaluate first value = evaluate second value := by
  have reading := reading_evaluate second
  have asFirst : Reading first (evaluate second) :=
    { reading with
      role := by
        intro role
        rw [← (reading_evaluate first).role, evaluate, evaluate, same] }
  exact (reading_evaluate first).agree asFirst value

namespace Caller.Alike

variable {first second : Caller}

theorem holds (alike : first.Alike second) (role : String) :
    RoleExpression.holds first.roles role = RoleExpression.holds second.roles role := by
  have identity := alike.identity
  rw [Caller.roles, Caller.roles]
  generalize first.identity = firstIdentity at identity ⊢
  generalize second.identity = secondIdentity at identity ⊢
  cases identity with
  | some same => exact same.roles role
  | none => rfl

theorem any_privacyLevel (alike : first.Alike second) (level : Int64) :
    first.identity.any (fun identity => decide (level ≤ identity.privacyLevel)) =
      second.identity.any fun identity => decide (level ≤ identity.privacyLevel) := by
  have identity := alike.identity
  generalize first.identity = firstIdentity at identity ⊢
  generalize second.identity = secondIdentity at identity ⊢
  cases identity with
  | some same => simp [same.privacyLevel]
  | none => rfl

theorem lets (alike : first.Alike second) (kind : RuleKind) (value : Value) :
    kind.lets first value = kind.lets second value := by
  cases kind with
  | roles => exact RoleExpression.evaluate_congr alike.holds value
  | privacy => simp only [RuleKind.lets, alike.any_privacyLevel]
  | signIn =>
      have signIn := alike.signIn
      simp only [RuleKind.lets]
      generalize first.signIn = firstSignIn at signIn ⊢
      generalize second.signIn = secondSignIn at signIn ⊢
      cases signIn with
      | some same => simp only [same.evaluate]
      | none => rfl
  | loyalty => simp only [RuleKind.lets, alike.housing]
  | enable => rfl
  | platform => simp only [RuleKind.lets, alike.os]

end Caller.Alike

theorem ContentTree.assemble_eq_of_rules {tree : ContentTree} {first second : Caller}
    (same : ∀ rule ∈ tree.rules, rule.lets first = rule.lets second) :
    tree.assemble first = tree.assemble second := by
  have names : ∀ item ∈ tree.items, item.visibleNames first = item.visibleNames second := by
    intro item member
    have visible : ∀ uiItem ∈ item.uiItems, uiItem.isVisible first = uiItem.isVisible second := by
      intro uiItem uiMember
      rw [UiItem.isVisible, UiItem.isVisible, Bool.eq_iff_iff, List.all_eq_true, List.all_eq_true]
      refine forall₂_congr fun rule ruleMember => ?_
      rw [same rule (mem_rules_iff.mpr ⟨item, member, uiItem, uiMember, ruleMember⟩)]
    simp only [ContentItem.visibleNames]
    rw [List.filter_congr fun uiItem sorted => visible uiItem (List.mem_mergeSort.mp sorted)]
  refine List.foldl_ext _ _ _ fun view item member => ?_
  simp only [View.add, names item member]

theorem ContentTree.assemble_congr {first second : Caller}
    (same : ∀ rule : Rule, rule.lets first = rule.lets second) (tree : ContentTree) :
    tree.assemble first = tree.assemble second :=
  tree.assemble_eq_of_rules fun rule _ => same rule

/-- A text of which only is kept that it is there. -/
def masked (text : Option String) : Option String :=
  text.map fun _ => ""

/-- A text of which only is kept that it is there and not empty. -/
def maskedFilled (text : Option String) : Option String :=
  if isFilled text then some "*" else none

def Tokens.masked (tokens : Tokens) : Tokens :=
  ⟨Audience.masked tokens.idToken, Audience.masked tokens.accessToken,
    Audience.masked tokens.refreshToken, maskedFilled tokens.phoneNumber⟩

/-- Of a profile only the set of its groups is kept. -/
def Profile.masked (profile : Profile) : Profile :=
  ⟨none, none, none, none, none, none, none, (NameSet.ofList profile.groups).toList⟩

def Card.masked (card : Card) : Card :=
  ⟨maskedFilled card.cardNumber, maskedFilled card.libraryNumber⟩

def SignIn.masked : SignIn → SignIn
  | v1 uin => v1 (Audience.masked uin)
  | v2 tokens profile => v2 tokens.masked (profile.map Profile.masked)
  | v3 tokens profile card personal =>
      v3 (tokens.map Tokens.masked) (profile.map Profile.masked) (card.map Card.masked) personal

/-- A caller of whom no token, number, id, name or address is kept. -/
def Caller.masked (caller : Caller) : Caller :=
  { caller with
    identity := caller.identity.map fun identity => { identity with userId := none }
    signIn := caller.signIn.map SignIn.masked }

theorem isSome_masked (text : Option String) : (masked text).isSome = text.isSome := by
  cases text <;> rfl

theorem isFilled_maskedFilled (text : Option String) :
    isFilled (maskedFilled text) = isFilled text := by
  rw [maskedFilled]
  cases filled : isFilled text <;> rfl

namespace SignIn

theorem tokens?_masked (signIn : SignIn) :
    signIn.masked.tokens? = signIn.tokens?.map Tokens.masked := by
  cases signIn <;> rfl

theorem profile?_masked (signIn : SignIn) :
    signIn.masked.profile? = signIn.profile?.map Profile.masked := by
  cases signIn <;> rfl

theorem card?_masked (signIn : SignIn) : signIn.masked.card? = signIn.card?.map Card.masked := by
  cases signIn <;> rfl

theorem token?_masked {field : Tokens → Option String} (mask : Option String → Option String)
    (absent : mask none = none)
    (present : ∀ tokens : Tokens, field tokens.masked = mask (field tokens)) (signIn : SignIn) :
    signIn.masked.token? field = mask (signIn.token? field) := by
  rw [token?, token?, tokens?_masked]
  cases signIn.tokens? with
  | none => exact absent.symm
  | some tokens => exact present tokens

theorem cardText?_masked {field : Card → Option String}
    (present : ∀ card : Card, field card.masked = maskedFilled (field card)) (signIn : SignIn) :
    signIn.masked.cardText? field = maskedFilled (signIn.cardText? field) := by
  rw [cardText?, cardText?, card?_masked]
  cases signIn.card? with
  | none => rfl
  | some card => exact present card

theorem mem_groups_masked (signIn : SignIn) (group : String) :
    group ∈ signIn.masked.groups ↔ group ∈ signIn.groups := by
  rw [groups, groups, profile?_masked]
  cases signIn.profile? with
  | none => rfl
  | some profile => exact NameSet.mem_toList_ofList

theorem alike_masked (signIn : SignIn) : signIn.masked.Alike signIn where
  version := by cases signIn <;> rfl
  uin := by
    cases signIn with
    | v1 uin => exact isSome_masked uin
    | _ => rfl
  idToken := by rw [token?_masked Audience.masked rfl fun _ => rfl, isSome_masked]
  accessToken := by rw [token?_masked Audience.masked rfl fun _ => rfl, isSome_masked]
  refreshToken := by rw [token?_masked Audience.masked rfl fun _ => rfl, isSome_masked]
  phoneNumber := by rw [token?_masked maskedFilled rfl fun _ => rfl, isFilled_maskedFilled]
  groups := signIn.mem_groups_masked
  cardNumber := by rw [cardText?_masked fun _ => rfl, isFilled_maskedFilled]
  libraryNumber := by rw [cardText?_masked fun _ => rfl, isFilled_maskedFilled]
  documentType := by cases signIn <;> rfl

end SignIn

theorem Caller.alike_masked (caller : Caller) : caller.masked.Alike caller where
  identity := by
    rw [Caller.masked]
    cases caller.identity with
    | none => exact .none
    | some identity => exact .some ⟨rfl, fun _ => rfl⟩
  housing := rfl
  os := rfl
  signIn := by
    rw [Caller.masked]
    cases caller.signIn with
    | none => exact .none
    | some signIn => exact .some signIn.alike_masked

/-- Alike callers see the same of a tree, so a caller sees of it what is left when all secrets are
masked. -/
theorem ContentTree.assemble_reveals_facts (tree : ContentTree) :
    (∀ first second : Caller, first.Alike second → tree.assemble first = tree.assemble second) ∧
      ∀ caller : Caller, tree.assemble caller.masked = tree.assemble caller := by
  have alike : ∀ first second : Caller, first.Alike second →
      tree.assemble first = tree.assemble second := by
    intro first second alike
    exact tree.assemble_congr fun rule => alike.lets rule.type.kind rule.value
  exact ⟨alike, fun caller => alike caller.masked caller caller.alike_masked⟩

namespace Caller

/-- Signed in with all tokens, a card and two groups. -/
def student : Caller :=
  ⟨some ⟨some "u-1", 2, .ofList ["student"]⟩,
    some (.v3 (some ⟨some "id", some "access", some "refresh", some "555"⟩)
      (some ⟨some "One", none, none, some "7", none, none, some "one@x", ["chess", "choir"]⟩)
      (some ⟨some "17", none⟩) (some ⟨some "passport"⟩)),
    none, some ⟨some "ios"⟩⟩

/-- Has other secrets, and the groups in another order. -/
def otherStudent : Caller :=
  ⟨some ⟨none, 2, .ofList ["student"]⟩,
    some (.v3 (some ⟨some "di", some "", some "again", some "777"⟩)
      (some ⟨some "Two", none, none, none, none, none, none, ["choir", "chess", "choir"]⟩)
      (some ⟨some "42", some ""⟩) (some ⟨some "passport"⟩)),
    some ⟨false⟩, some ⟨some "ios"⟩⟩

theorem alike_students : student.Alike otherStudent ∧
    ∀ tree : ContentTree, tree.assemble student = tree.assemble otherStudent := by
  have alike : student.Alike otherStudent :=
    { identity := .some ⟨rfl, fun _ => rfl⟩
      housing := rfl
      os := rfl
      signIn := .some
        { version := rfl, uin := rfl, idToken := rfl, accessToken := rfl, refreshToken := rfl
          phoneNumber := by decide
          groups := by
            intro group
            simp only [SignIn.groups, SignIn.profile?, Option.elim_some]
            grind
          cardNumber := by decide
          libraryNumber := by decide
          documentType := rfl } }
  exact ⟨alike, fun tree => tree.assemble_reveals_facts.1 student otherStudent alike⟩

end Caller

end Audience
