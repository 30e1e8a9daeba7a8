import Audience.Sorted

namespace Audience

/-! What is known about the caller of a query.

Every part may be missing; each kind of rule says what a missing part means to it.
-/

/-- The person on whose behalf a query is made. -/
structure Identity where
  userId : Option String
  privacyLevel : Int64
  roles : NameSet
deriving Repr, DecidableEq

/-- The loyalty programme of a caller. -/
structure Loyalty where
  housingResident : Bool
deriving Repr, DecidableEq

structure Platform where
  os : Option String
deriving Repr, DecidableEq

structure Tokens where
  idToken : Option String
  accessToken : Option String
  refreshToken : Option String
  phoneNumber : Option String
deriving Repr, DecidableEq

/-- The claims of a profile. -/
structure Profile where
  name : Option String
  givenName : Option String
  familyName : Option String
  uin : Option String
  preferredUsername : Option String
  subject : Option String
  email : Option String
  groups : List String
deriving Repr, DecidableEq

structure Card where
  cardNumber : Option String
  libraryNumber : Option String
deriving Repr, DecidableEq

structure PersonalData where
  documentType : Option String
deriving Repr, DecidableEq

/-- The generations of the sign-in payload. -/
inductive SignInVersion where
  | v1
  | v2
  | v3
deriving Repr, DecidableEq

/-- What a client says about the sign-in of its user, by generation of the client. -/
inductive SignIn where
  | v1 (uin : Option String)
  | v2 (tokens : Tokens) (profile : Option Profile)
  | v3 (tokens : Option Tokens) (profile : Option Profile) (card : Option Card)
      (personal : Option PersonalData)
deriving Repr, DecidableEq

/-- All that is known about a caller. -/
structure Caller where
  identity : Option Identity
  signIn : Option SignIn
  loyalty : Option Loyalty
  platform : Option Platform
deriving Repr, DecidableEq

namespace SignInVersion

def name : SignInVersion → String
  | v1 => "v1"
  | v2 => "v2"
  | v3 => "v3"

def ofName? (name : String) : Option SignInVersion :=
  [v1, v2, v3].find? fun version => version.name == name

end SignInVersion

namespace SignIn

def version : SignIn → SignInVersion
  | v1 _ => .v1
  | v2 _ _ => .v2
  | v3 _ _ _ _ => .v3

def tokens? : SignIn → Option Tokens
  | v1 _ => none
  | v2 tokens _ => some tokens
  | v3 tokens _ _ _ => tokens

def profile? : SignIn → Option Profile
  | v1 _ => none
  | v2 _ profile => profile
  | v3 _ profile _ _ => profile

def card? : SignIn → Option Card
  | v3 _ _ card _ => card
  | _ => none

def personal? : SignIn → Option PersonalData
  | v3 _ _ _ personal => personal
  | _ => none

end SignIn

namespace Identity

def ofUser (userId : String) : Identity := ⟨some userId, 0, .empty⟩

def withPrivacyLevel (identity : Identity) (level : Int64) : Identity :=
  { identity with privacyLevel := level }

def withRole (identity : Identity) (role : String) : Identity :=
  { identity with roles := identity.roles.insert role }

def withRoles (identity : Identity) (roles : List String) : Identity :=
  { identity with roles := identity.roles.insertAll roles }

end Identity

namespace Caller

/-- A caller of whom nothing is known. -/
def anonymous : Caller := ⟨none, none, none, none⟩

def withIdentity (caller : Caller) (identity : Identity) : Caller :=
  { caller with identity := some identity }

def withSignIn (caller : Caller) (signIn : SignIn) : Caller :=
  { caller with signIn := some signIn }

def withHousingResident (caller : Caller) (resident : Bool) : Caller :=
  { caller with loyalty := some ⟨resident⟩ }

def withPlatform (caller : Caller) (os : String) : Caller :=
  { caller with platform := some ⟨some os⟩ }

/-- The roles of the identity, if there is one. -/
def roles (caller : Caller) : Option NameSet :=
  caller.identity.map Identity.roles

def hasRole (caller : Caller) (role : String) : Bool :=
  caller.roles.any (·.contains role)

/-- Whether the caller is known to live in housing. -/
def isHousingResident (caller : Caller) : Bool :=
  caller.loyalty.any Loyalty.housingResident

def os? (caller : Caller) : Option String :=
  caller.platform.bind Platform.os

end Caller

end Audience
