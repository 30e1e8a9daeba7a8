import Audience.Caller.Basic
import Audience.Json.Basic

namespace Audience

/-! Callers in JSON: writing.  Parts that are missing are left out. -/

/-- A field that is left out when it has no value. -/
def Json.optionalField (name : String) (value : Option Json) : List (String × Json) :=
  match value with
  | some value => [(name, value)]
  | none => []

def Json.optionalString (name : String) (value : Option String) : List (String × Json) :=
  Json.optionalField name (value.map .string)

def Identity.toJson (identity : Identity) : Json :=
  .object (Json.optionalString "user_id" identity.userId ++
    [("privacy_level", .whole identity.privacyLevel.toInt),
      ("roles", .strings identity.roles.toList)])

def Loyalty.toJson (loyalty : Loyalty) : Json :=
  .object [("housing_resident_status", .bool loyalty.housingResident)]

def Platform.toJson (platform : Platform) : Json :=
  .object (Json.optionalString "os" platform.os)

def Tokens.jsonFields (tokens : Tokens) : List (String × Json) :=
  Json.optionalString "id_token" tokens.idToken ++
    Json.optionalString "access_token" tokens.accessToken ++
    Json.optionalString "refresh_token" tokens.refreshToken ++
    Json.optionalString "phone_number" tokens.phoneNumber

def Tokens.toJson (tokens : Tokens) : Json :=
  .object tokens.jsonFields

def Profile.toJson (profile : Profile) : Json :=
  .object (Json.optionalString "name" profile.name ++
    Json.optionalString "given_name" profile.givenName ++
    Json.optionalString "family_name" profile.familyName ++
    Json.optionalString "uin" profile.uin ++
    Json.optionalString "preferred_username" profile.preferredUsername ++
    Json.optionalString "sub" profile.subject ++
    Json.optionalString "email" profile.email ++
    [("member_of", .strings profile.groups)])

def Card.toJson (card : Card) : Json :=
  .object (Json.optionalString "card_number" card.cardNumber ++
    Json.optionalString "library_number" card.libraryNumber)

def PersonalData.toJson (personal : PersonalData) : Json :=
  .object (Json.optionalString "document_type" personal.documentType)

def SignIn.recordFields : SignIn → List (String × Json)
  | .v1 uin => Json.optionalString "uin" uin
  | .v2 tokens profile =>
      tokens.jsonFields ++ Json.optionalField "user_info" (profile.map Profile.toJson)
  | .v3 tokens profile card personal =>
      Json.optionalField "token" (tokens.map Tokens.toJson) ++
        Json.optionalField "user" (profile.map Profile.toJson) ++
        Json.optionalField "card" (card.map Card.toJson) ++
        Json.optionalField "pii" (personal.map PersonalData.toJson)

def SignIn.toJson (signIn : SignIn) : Json :=
  .object (("version", .string signIn.version.name) :: signIn.recordFields)

def Caller.toJson (caller : Caller) : Json :=
  .object (Json.optionalField "identity" (caller.identity.map Identity.toJson) ++
    Json.optionalField "auth" (caller.signIn.map SignIn.toJson) ++
    Json.optionalField "loyalty" (caller.loyalty.map Loyalty.toJson) ++
    Json.optionalField "platform" (caller.platform.map Platform.toJson))

end Audience
