import Audience.Caller.Basic
import Audience.Rule.Value

namespace Audience

/-! Rules on the sign-in of a caller.

The value of such a rule is a map from predicates to what is wanted of them.  The generation of the
caller's payload decides which predicates are understood, and of those only the first that the map
has counts.
-/

/-- Members of this group may edit events. -/
def eventApproversGroup : String :=
  "urn:mace:uiuc.edu:urbana:authman:app-rokwire-service-policy-rokwire event approvers"

/-- What can be asked of a sign-in, in order of priority. -/
inductive SignInPredicate where
  | shibbolethLoggedIn
  | loggedIn
  | phoneLoggedIn
  | eventEditor
  | shibbolethMemberOf
  | cardNumber
  | libraryNumber
  | documentType
deriving Repr, DecidableEq

namespace SignInPredicate

/-- The predicates that a generation understands, in order of priority. -/
def understood : SignInVersion → List SignInPredicate
  | .v1 => [shibbolethLoggedIn]
  | .v2 => [shibbolethLoggedIn, loggedIn, phoneLoggedIn, eventEditor, shibbolethMemberOf]
  | .v3 =>
      [shibbolethLoggedIn, loggedIn, phoneLoggedIn, eventEditor, shibbolethMemberOf, cardNumber,
        libraryNumber, documentType]

def key : SignInPredicate → String
  | shibbolethLoggedIn => "shibbolethLoggedIn"
  | loggedIn => "loggedIn"
  | phoneLoggedIn => "phoneLoggedIn"
  | eventEditor => "eventEditor"
  | shibbolethMemberOf => "shibbolethMemberOf"
  | cardNumber => "iCardNum"
  | libraryNumber => "iCardLibraryNum"
  | documentType => "documentType"

/-- Whether a predicate is asked with a text; the others are asked with a flag. -/
def takesText : SignInPredicate → Bool
  | shibbolethMemberOf | documentType => true
  | _ => false

/-- The entry of a key, unless it is null. -/
def named? (entries : List (String × Value)) (predicate : SignInPredicate) : Option Value :=
  (Sorted.lookup predicate.key entries).filter fun value => !value.isNull

/-- The first of some predicates that a map asks for, with what it wants. -/
def select (predicates : List SignInPredicate) (entries : List (String × Value)) :
    Option (SignInPredicate × Value) :=
  predicates.findSome? fun predicate => (named? entries predicate).map (predicate, ·)

end SignInPredicate

namespace Tokens

def hasAll (tokens : Tokens) : Bool :=
  tokens.idToken.isSome && tokens.accessToken.isSome && tokens.refreshToken.isSome

/-- A sign-in by telephone has an id token and a number, and neither of the other tokens. -/
def byPhone (tokens : Tokens) : Bool :=
  tokens.idToken.isSome && tokens.accessToken.isNone && tokens.refreshToken.isNone &&
    tokens.phoneNumber.any (· != "")

end Tokens

namespace SignIn

def isMemberOf (signIn : SignIn) (group : String) : Bool :=
  signIn.profile?.any (·.groups.contains group)

/-- Whether a flag predicate is true of a sign-in. -/
def flag (signIn : SignIn) : SignInPredicate → Bool
  | .shibbolethLoggedIn =>
      match signIn with
      | v1 uin => uin.isSome
      | _ => signIn.tokens?.any Tokens.hasAll
  | .loggedIn => signIn.tokens?.any (·.idToken.isSome)
  | .phoneLoggedIn => signIn.tokens?.any Tokens.byPhone
  | .eventEditor => signIn.isMemberOf eventApproversGroup
  | .cardNumber => signIn.card?.any fun card => card.cardNumber.any (· != "")
  | .libraryNumber => signIn.card?.any fun card => card.libraryNumber.any (· != "")
  | .shibbolethMemberOf | .documentType => false

/-- Whether a text predicate is true of a sign-in for a text. -/
def matchesText (signIn : SignIn) (wanted : String) : SignInPredicate → Bool
  | .shibbolethMemberOf => signIn.isMemberOf wanted
  | .documentType => signIn.personal?.any fun personal => personal.documentType == some wanted
  | _ => false

end SignIn

/-- Why a rule on the sign-in cannot be decided. -/
inductive SignInMismatch where
  | notAMap
  | wrongType (predicate : SignInPredicate) (found : String)
deriving Repr, DecidableEq

namespace SignInPredicate

/-- Decides a predicate by what is wanted of it. -/
def decide (signIn : SignIn) (predicate : SignInPredicate) (wanted : Value) :
    Except SignInMismatch Bool :=
  if predicate.takesText then
    match wanted.text? with
    | some text => .ok (signIn.matchesText text predicate)
    | none => .error (.wrongType predicate wanted.shape)
  else
    match wanted.bool? with
    | some flag => .ok (signIn.flag predicate == flag)
    | none => .error (.wrongType predicate wanted.shape)

/-- Decides a rule value.  A map without an understood predicate does not match. -/
def evaluate (signIn : SignIn) (value : Value) : Except SignInMismatch Bool :=
  match value.map? with
  | none => .error .notAMap
  | some entries =>
      match select (understood signIn.version) entries with
      | none => .ok false
      | some (predicate, wanted) => decide signIn predicate wanted

end SignInPredicate

end Audience
