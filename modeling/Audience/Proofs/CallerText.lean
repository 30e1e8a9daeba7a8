import Audience.Caller.Decode
import Audience.Proofs.Json.Written

namespace Audience

/-! A caller that is written is read back as the same caller.

Each part of a caller has a reader and a way to write it, and the reader takes back what was
written.  What is written in front of a part and behind it does not matter to its fields, so the
tokens of a second generation payload are found among its other fields.
-/

section

variable {reading : Reading}

theorem Identity.reader_toJson (admits : reading.Admits 2) (identity : Identity) :
    reader reading (.ofJson identity.toJson) = .ok identity := by
  obtain ⟨inner, entered, admitted⟩ := admits.enter
  obtain ⟨userId, privacyLevel, roles⟩ := identity
  refine Record.reader_ofJson (by decide) entered (userId, privacyLevel, roles.toList, ()) ?_ ?_
  · simp [NameSet.ofList_toList]
  · have level := Reader.int64_ofJson inner privacyLevel
    have names := Reader.list_string_ofJson admitted roles.toList
    simp [Record.TakesAll, Field.takes_defaulted level, Field.takes_defaulted names]

theorem Loyalty.reader_toJson (admits : reading.Admits 1) (loyalty : Loyalty) :
    reader reading (.ofJson loyalty.toJson) = .ok loyalty := by
  obtain ⟨inner, entered, -⟩ := admits.enter
  refine Record.reader_ofJson (by decide) entered (loyalty.housingResident, ()) rfl ?_
  have status : Reader.bool inner (.ofJson (.bool loyalty.housingResident)) =
      .ok loyalty.housingResident := rfl
  simp [Record.TakesAll, Field.takes_defaulted status]

theorem Platform.reader_toJson (admits : reading.Admits 1) (platform : Platform) :
    reader reading (.ofJson platform.toJson) = .ok platform := by
  obtain ⟨inner, entered, -⟩ := admits.enter
  refine Record.reader_ofJson (by decide) entered (platform.os, ()) rfl ?_
  simp [Record.TakesAll]

theorem Tokens.reader_toJson (admits : reading.Admits 1) (tokens : Tokens) :
    reader reading (.ofJson tokens.toJson) = .ok tokens := by
  obtain ⟨inner, entered, -⟩ := admits.enter
  refine Record.reader_ofJson (by decide) entered
    (tokens.idToken, tokens.accessToken, tokens.refreshToken, tokens.phoneNumber, ()) rfl ?_
  simp [Record.TakesAll, Tokens.jsonFields]

theorem Profile.reader_toJson (admits : reading.Admits 2) (profile : Profile) :
    reader reading (.ofJson profile.toJson) = .ok profile := by
  obtain ⟨inner, entered, admitted⟩ := admits.enter
  refine Record.reader_ofJson (by decide) entered
    (profile.name, profile.givenName, profile.familyName, profile.uin, profile.preferredUsername,
      profile.subject, profile.email, profile.groups, ()) rfl ?_
  have groups := Reader.list_string_ofJson admitted profile.groups
  simp [Record.TakesAll, Field.takes_defaulted groups]

theorem Card.reader_toJson (admits : reading.Admits 1) (card : Card) :
    reader reading (.ofJson card.toJson) = .ok card := by
  obtain ⟨inner, entered, -⟩ := admits.enter
  refine Record.reader_ofJson (by decide) entered (card.cardNumber, card.libraryNumber, ()) rfl ?_
  simp [Record.TakesAll]

theorem PersonalData.reader_toJson (admits : reading.Admits 1) (personal : PersonalData) :
    reader reading (.ofJson personal.toJson) = .ok personal := by
  obtain ⟨inner, entered, -⟩ := admits.enter
  refine Record.reader_ofJson (by decide) entered (personal.documentType, ()) rfl ?_
  simp [Record.TakesAll]

end

namespace SignIn

variable {reading inner : Reading}

theorem ofName?_name (version : SignInVersion) :
    SignInVersion.ofName? version.name = some version := by
  cases version <;> decide

theorem v1Reader_ofJson (admits : reading.Admits 1) (uin : Option String) :
    v1Reader reading (.ofJson (.object (v1 uin).recordFields)) = .ok (v1 uin) := by
  obtain ⟨inner, entered, -⟩ := admits.enter
  refine Record.reader_ofJson (by decide) entered (uin, ()) rfl ?_
  simp [Record.TakesAll, recordFields]

theorem v2Reader_ofJson (admits : reading.Admits 3) (tokens : Tokens) (profile : Option Profile) :
    v2Reader reading (.ofJson (.object (v2 tokens profile).recordFields)) =
      .ok (v2 tokens profile) := by
  obtain ⟨inner, entered, admitted⟩ := admits.enter
  have takesProfile := Field.takes_optional "user_info" [] (Profile.reader_toJson admitted)
    (fun _ => Json.noConfusion) profile
  -- Each of the two readers passes over what the other one takes.
  let payload := Node.ofJson (.object (v2 tokens profile).recordFields)
  have readProfile : Record.reader [.optional "user_info" Profile.reader []] Prod.fst reading
      payload = .ok profile := by
    refine Record.reader_ofJson (by decide) entered (profile, ()) rfl ?_
    simp [Record.TakesAll, recordFields, Tokens.jsonFields, takesProfile]
  have readTokens : Tokens.reader reading payload = .ok tokens := by
    refine Record.reader_ofJson (by decide) entered
      (tokens.idToken, tokens.accessToken, tokens.refreshToken, tokens.phoneNumber, ()) rfl ?_
    simp [Record.TakesAll, recordFields, Tokens.jsonFields]
  have both : v2Reader reading payload = (do
      let profile ← Record.reader [.optional "user_info" Profile.reader []] Prod.fst reading payload
      let tokens ← Tokens.reader reading payload
      .ok (v2 tokens profile)) := rfl
  rw [both, readProfile, readTokens]
  rfl

theorem v3Reader_ofJson (admits : reading.Admits 3) (tokens : Option Tokens)
    (profile : Option Profile) (card : Option Card) (personal : Option PersonalData) :
    v3Reader reading (.ofJson (.object (v3 tokens profile card personal).recordFields)) =
      .ok (v3 tokens profile card personal) := by
  obtain ⟨inner, entered, admitted⟩ := admits.enter
  have flat : inner.Admits 1 := admitted.of_le (by decide)
  refine Record.reader_ofJson (by decide) entered (tokens, profile, card, personal, ()) rfl ?_
  have takesTokens := Field.takes_optional "token" [] (Tokens.reader_toJson flat)
    (fun _ => Json.noConfusion) tokens
  have takesProfile := Field.takes_optional "user" [] (Profile.reader_toJson admitted)
    (fun _ => Json.noConfusion) profile
  have takesCard := Field.takes_optional "card" [] (Card.reader_toJson flat)
    (fun _ => Json.noConfusion) card
  have takesPersonal := Field.takes_optional "pii" [] (PersonalData.reader_toJson flat)
    (fun _ => Json.noConfusion) personal
  simp [Record.TakesAll, recordFields, takesTokens, takesProfile, takesCard, takesPersonal]

theorem recordReader_ofJson (admits : reading.Admits 3) (signIn : SignIn) :
    recordReader signIn.version reading (.ofJson (.object signIn.recordFields)) = .ok signIn := by
  cases signIn with
  | v1 uin => exact v1Reader_ofJson (admits.of_le (by decide)) uin
  | v2 tokens profile => exact v2Reader_ofJson admits tokens profile
  | v3 tokens profile card personal => exact v3Reader_ofJson admits tokens profile card personal

theorem readVersion_ofFields {fields : List (String × Json)} {found : Option SignInVersion}
    (others : ∀ field ∈ fields, field.1 ≠ versionField ∧ reading.Admits field.2.height) :
    readVersion reading found (Node.ofFields fields) = .ok found := by
  induction fields with
  | nil => rfl
  | cons field rest ih =>
      obtain ⟨key, document⟩ := field
      obtain ⟨⟨other, admits⟩, restOthers⟩ := List.forall_mem_cons.mp others
      have read := Node.readJson_ofJson document admits
      simp only [Node.ofFields, readVersion, if_neg other, read, ih restOthers]
      rfl

end SignIn

section

variable {levels : Nat}

@[simp] theorem Identity.fits_toJson (identity : Identity) : identity.toJson.Fits (levels + 2) := by
  simp [toJson]

@[simp] theorem Loyalty.fits_toJson (loyalty : Loyalty) : loyalty.toJson.Fits (levels + 1) := by
  simp [toJson]

@[simp] theorem Platform.fits_toJson (platform : Platform) : platform.toJson.Fits (levels + 1) := by
  simp [toJson]

@[simp] theorem Tokens.fits_jsonFields (tokens : Tokens) :
    Json.FieldsFit levels tokens.jsonFields := by
  simp [jsonFields]

@[simp] theorem Tokens.fits_toJson (tokens : Tokens) : tokens.toJson.Fits (levels + 1) := by
  simp [toJson]

@[simp] theorem Profile.fits_toJson (profile : Profile) : profile.toJson.Fits (levels + 2) := by
  simp [toJson]

@[simp] theorem Card.fits_toJson (card : Card) : card.toJson.Fits (levels + 1) := by
  simp [toJson]

@[simp] theorem PersonalData.fits_toJson (personal : PersonalData) :
    personal.toJson.Fits (levels + 1) := by
  simp [toJson]

@[simp] theorem SignIn.fits_recordFields (signIn : SignIn) :
    Json.FieldsFit (levels + 2) signIn.recordFields := by
  cases signIn <;> simp [recordFields]

theorem SignIn.ne_versionField_of_mem {signIn : SignIn} {field : String × Json}
    (member : field ∈ signIn.recordFields) : field.1 ≠ versionField := by
  cases signIn <;>
    simp only [recordFields, Tokens.jsonFields, Json.optionalString, List.mem_append,
      Json.mem_optionalField] at member <;>
    grind [versionField]

@[simp] theorem SignIn.fits_toJson (signIn : SignIn) : signIn.toJson.Fits (levels + 3) := by
  simp [toJson]

@[simp] theorem Caller.fits_toJson (caller : Caller) : caller.toJson.Fits (levels + 4) := by
  simp [toJson]

end

theorem SignIn.reader_toJson {reading : Reading} (admits : reading.Admits 3) (signIn : SignIn) :
    reader reading (.ofJson signIn.toJson) = .ok signIn := by
  obtain ⟨inner, entered, admitted⟩ := admits.enter
  have others : ∀ field ∈ signIn.recordFields,
      field.1 ≠ versionField ∧ inner.Admits field.2.height := fun field member =>
    ⟨ne_versionField_of_mem member,
      admitted.of_le (SignIn.fits_recordFields signIn field member).2⟩
  have versioned : readVersion inner none
      ((some versionField, .string signIn.version.name) :: Node.ofFields signIn.recordFields) =
        .ok (some signIn.version) := by
    simp [readVersion, SignInVersion.reader, ofName?_name, readVersion_ofFields others, bind,
      Except.bind]
  have kept : ((some versionField, .string signIn.version.name) ::
      Node.ofFields signIn.recordFields).filter (fun field => field.1 != some versionField) =
        Node.ofFields signIn.recordFields := by
    rw [List.filter_cons_of_neg (by simp), List.filter_eq_self, Node.ofFields_eq_map,
      List.forall_mem_map]
    intro field member
    simpa using ne_versionField_of_mem member
  have read : recordReader signIn.version .value
      (.object (Node.ofFields signIn.recordFields) true) = .ok signIn :=
    recordReader_ofJson Reading.admits_value signIn
  have written : Node.ofJson signIn.toJson = .object
      ((some versionField, .string signIn.version.name) :: Node.ofFields signIn.recordFields)
      true := rfl
  simp only [written, reader, entered, versioned, kept, bind, Except.bind, if_true, read]

/-- The text of a caller is read as the caller. -/
theorem Caller.ofText_text (caller : Caller) : ofText caller.toJson.text = .ok caller := by
  have notBlank : ¬allBlank caller.toJson.text = true := by
    have opening : isBlank '\x7b' = false := by decide
    simp [allBlank, Json.text, toJson, Json.chars, opening]
  have entered : (Reading.text 0).enter = .ok (.text 1) := rfl
  have admitted : (Reading.text 1).Admits 3 := Reading.admits_text.mpr (by decide)
  have flat : (Reading.text 1).Admits 1 := admitted.of_le (by decide)
  have takesIdentity := Field.takes_optional "identity" ["user"]
    (Identity.reader_toJson (admitted.of_le (by decide))) (fun _ => Json.noConfusion)
    caller.identity
  have takesSignIn := Field.takes_optional "auth" [] (SignIn.reader_toJson admitted)
    (fun _ => Json.noConfusion) caller.signIn
  have takesLoyalty := Field.takes_optional "loyalty" ["illini_cash"] (Loyalty.reader_toJson flat)
    (fun _ => Json.noConfusion) caller.loyalty
  have takesPlatform := Field.takes_optional "platform" [] (Platform.reader_toJson flat)
    (fun _ => Json.noConfusion) caller.platform
  have read : reader (.text 0) (.ofJson caller.toJson) = .ok caller := by
    refine Record.reader_ofJson (by decide) entered
      (caller.identity, caller.signIn, caller.loyalty, caller.platform, ()) rfl ?_
    simp [Record.TakesAll, takesIdentity, takesSignIn, takesLoyalty, takesPlatform]
  have legible : caller.toJson.Legible := (fits_toJson caller : Json.Fits 4 _).1
  rw [ofText, if_neg notBlank, Reader.decodeText_text reader legible, read]

end Audience
