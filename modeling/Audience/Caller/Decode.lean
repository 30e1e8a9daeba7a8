import Audience.Caller.Basic
import Audience.Json.Record
import Audience.Text.Blank

namespace Audience

/-! Callers in JSON: reading.

The sign-in payload names its generation in a field `version`.  Its other fields are read as JSON
first and as the record of that generation when the payload has ended.
-/

def Identity.reader : Reader Identity :=
  Record.reader
    [.optional "user_id" .string ["uuid"], .defaulted "privacy_level" .int64 0 [],
      .defaulted "roles" (.list .string) [] []]
    fun (userId, privacyLevel, roles, _) => ⟨userId, privacyLevel, .ofList roles⟩

def Loyalty.reader : Reader Loyalty :=
  Record.reader [.defaulted "housing_resident_status" .bool false ["HousingResidentStatus"]]
    fun (housingResident, _) => ⟨housingResident⟩

def Platform.reader : Reader Platform :=
  Record.reader [.optional "os" .string []] fun (os, _) => ⟨os⟩

def Tokens.reader : Reader Tokens :=
  Record.reader
    [.optional "id_token" .string [], .optional "access_token" .string [],
      .optional "refresh_token" .string [], .optional "phone_number" .string ["phone"]]
    fun (idToken, accessToken, refreshToken, phoneNumber, _) =>
      ⟨idToken, accessToken, refreshToken, phoneNumber⟩

def Profile.reader : Reader Profile :=
  Record.reader
    [.optional "name" .string [], .optional "given_name" .string [],
      .optional "family_name" .string [], .optional "uin" .string ["uiucedu_uin"],
      .optional "preferred_username" .string [], .optional "sub" .string [],
      .optional "email" .string [],
      .defaulted "member_of" (.list .string) [] ["uiucedu_is_member_of"]]
    fun (name, givenName, familyName, uin, preferredUsername, subject, email, groups, _) =>
      ⟨name, givenName, familyName, uin, preferredUsername, subject, email, groups⟩

def Card.reader : Reader Card :=
  Record.reader [.optional "card_number" .string [], .optional "library_number" .string []]
    fun (cardNumber, libraryNumber, _) => ⟨cardNumber, libraryNumber⟩

def PersonalData.reader : Reader PersonalData :=
  Record.reader [.optional "document_type" .string ["documentType"]]
    fun (documentType, _) => ⟨documentType⟩

def SignInVersion.reader : Reader SignInVersion := fun _ node =>
  match node with
  | .string name =>
      match ofName? name with
      | some version => .ok version
      | none => .error (.unknownVersion name)
  | node => .error node.mismatch

namespace SignIn

/-- The field that names the generation. -/
def versionField : String := "version"

def v1Reader : Reader SignIn :=
  Record.reader [.optional "uin" .string ["uiucedu_uin"]] fun (uin, _) => v1 uin

/-- The second generation has its tokens among its own fields, so it is read twice: for the
profile and for the tokens.  It has no array form. -/
def v2Reader : Reader SignIn := fun reading node =>
  match node with
  | .object _ _ => do
      let profile ← Record.reader [.optional "user_info" Profile.reader []]
        (fun (profile, _) => profile) reading node
      let tokens ← Tokens.reader reading node
      .ok (v2 tokens profile)
  | .array _ _ => .error .invalidType
  | node => .error node.mismatch

def v3Reader : Reader SignIn :=
  Record.reader
    [.optional "token" Tokens.reader [], .optional "user" Profile.reader [],
      .optional "card" Card.reader [], .optional "pii" PersonalData.reader []]
    fun (tokens, profile, card, personal, _) => v3 tokens profile card personal

def recordReader : SignInVersion → Reader SignIn
  | .v1 => v1Reader
  | .v2 => v2Reader
  | .v3 => v3Reader

/-- Reads the fields of a payload up to its end: the version, and that the others are JSON. -/
def readVersion (reading : Reading) (found : Option SignInVersion) :
    List (Option String × Node) → Except DecodeError (Option SignInVersion)
  | [] => .ok found
  | (none, _) :: _ => .error .malformed
  | (some key, node) :: rest =>
      if key = versionField then
        match found with
        | some _ => .error (.duplicateField versionField)
        | none => do
            let version ← SignInVersion.reader reading node
            readVersion reading (some version) rest
      else do
        let _ ← node.readJson reading
        readVersion reading found rest

def reader : Reader SignIn := fun reading node =>
  match node with
  | .object fields closed => do
      let inner ← reading.enter
      let found ← readVersion inner none fields
      if closed then
        match found with
        | some version =>
            recordReader version .value
              (.object (fields.filter fun field => field.1 != some versionField) true)
        | none => .error (.missingField versionField)
      else .error .malformed
  | .array nodes closed => do
      let inner ← reading.enter
      match nodes with
      | [] => if closed then .error (.missingField versionField) else .error .malformed
      | first :: rest => do
          let version ← SignInVersion.reader inner first
          let _ ← Node.readItems inner rest
          if closed then recordReader version .value (.array rest true) else .error .malformed
  | node => .error node.mismatch

end SignIn

namespace Caller

def reader : Reader Caller :=
  Record.reader
    [.optional "identity" Identity.reader ["user"], .optional "auth" SignIn.reader [],
      .optional "loyalty" Loyalty.reader ["illini_cash"],
      .optional "platform" Platform.reader []]
    fun (identity, signIn, loyalty, platform, _) => ⟨identity, signIn, loyalty, platform⟩

/-- Reads a caller; a blank text is an anonymous one. -/
def ofText (text : String) : Except DecodeError Caller :=
  if allBlank text then .ok anonymous else reader.decodeText text

end Caller

end Audience
