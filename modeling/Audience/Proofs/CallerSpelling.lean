import Mathlib.Data.Set.List
import Mathlib.Logic.Relation
import Audience.Caller.Decode
import Audience.Proofs.Catalogs
import Audience.Proofs.Json.Respelled

namespace Audience

/-! Callers that are spelled in another way.

Clients of different ages write the same caller differently: with fields in another order, under
older names, with fields that are not known here, with roles said twice.  None of it changes the
caller that is read.  What is added to a sign-in payload is read as JSON before the record is, so
there it has to be a value that JSON readers can hold; elsewhere it only has to be well-formed.
-/

/-- The items of an array in another order, some of them said again or not. -/
inductive Node.SameItems : Node → Node → Prop
  | array {items others : List Node} (same : ∀ item, item ∈ items ↔ item ∈ others) :
      SameItems (.array items true) (.array others true)

/-- A value that can be held, and is not nested too deep inside some open containers. -/
def Node.IsDocument (depth : Nat) (node : Node) : Prop :=
  ∃ document : Json, node = .ofJson document ∧ depth + document.height ≤ Reading.depthLimit

def Identity.spellings : List Spelling :=
  [.named ["user_id", "uuid"], .named ["privacy_level"], ⟨["roles"], Node.SameItems⟩]

def Loyalty.spellings : List Spelling :=
  [.named ["housing_resident_status", "HousingResidentStatus"]]

def Platform.spellings : List Spelling := [.named ["os"]]

def Tokens.spellings : List Spelling :=
  [.named ["id_token"], .named ["access_token"], .named ["refresh_token"],
    .named ["phone_number", "phone"]]

def Profile.spellings : List Spelling :=
  [.named ["name"], .named ["given_name"], .named ["family_name"], .named ["uin", "uiucedu_uin"],
    .named ["preferred_username"], .named ["sub"], .named ["email"],
    .named ["member_of", "uiucedu_is_member_of"]]

def Card.spellings : List Spelling := [.named ["card_number"], .named ["library_number"]]

def PersonalData.spellings : List Spelling := [.named ["document_type", "documentType"]]

namespace SignIn

/-- How the fields of a generation may be spelled.  What may be added inside a number of open
containers is told by `extra`. -/
def spellings (extra : Nat → Node → Prop) : SignInVersion → List Spelling
  | .v1 => [.named ["uin", "uiucedu_uin"]]
  | .v2 => ⟨["user_info"], Record.RespelledNode Profile.spellings (extra 3)⟩ :: Tokens.spellings
  | .v3 =>
      [⟨["token"], Record.RespelledNode Tokens.spellings (extra 3)⟩,
        ⟨["user"], Record.RespelledNode Profile.spellings (extra 3)⟩,
        ⟨["card"], Record.RespelledNode Card.spellings (extra 3)⟩,
        ⟨["pii"], Record.RespelledNode PersonalData.spellings (extra 3)⟩]

/-- A step in a payload, whose fields are those of the generation that it names and the name of
that generation. -/
inductive Respelled (extra : Nat → Node → Prop) : Node → Node → Prop
  | payload {version : SignInVersion} {entries others : Entries}
      (tagged : (some versionField, .string version.name) ∈ entries)
      (respelled : Record.Respelled (.named [versionField] :: spellings extra version) (extra 2)
        entries others) :
      Respelled extra (.object entries true) (.object others true)

end SignIn

namespace Caller

def spellings (extra : Nat → Node → Prop) : List Spelling :=
  [⟨["identity", "user"],
      Record.RespelledNode Identity.spellings fun node => node.wellFormed = true⟩,
    ⟨["auth"], SignIn.Respelled extra⟩,
    ⟨["loyalty", "illini_cash"],
      Record.RespelledNode Loyalty.spellings fun node => node.wellFormed = true⟩,
    ⟨["platform"], Record.RespelledNode Platform.spellings fun node => node.wellFormed = true⟩]

/-- A step from a caller in JSON to one that says the same. -/
def Respelled (extra : Nat → Node → Prop) : Node → Node → Prop :=
  Record.RespelledNode (spellings extra) fun node => node.wellFormed = true

end Caller

theorem NameSet.ofList_congr {names others : List String}
    (same : ∀ name, name ∈ names ↔ name ∈ others) : ofList names = ofList others := by
  have maps : (ofList names).map = (ofList others).map := by
    apply SortedMap.eq_of_get?
    intro name
    have known :
        ((ofList names).map.get? name).isSome = ((ofList others).map.get? name).isSome := by
      rw [Bool.eq_iff_iff]
      exact mem_toList_iff.symm.trans
        (mem_toList_ofList.trans ((same name).trans (mem_toList_ofList.symm.trans mem_toList_iff)))
    generalize (ofList names).map.get? name = found at known
    generalize (ofList others).map.get? name = otherFound at known
    cases found <;> cases otherFound <;> first | rfl | cases known
  exact congrArg NameSet.mk maps

theorem Node.IsDocument.reads {depth : Nat} {node : Node} (isDocument : node.IsDocument depth) :
    node.Reads (.text depth) := by
  obtain ⟨document, rfl, fits⟩ := isDocument
  exact ⟨document, readJson_ofJson document fits⟩

theorem Node.skip_of_wellFormed {node : Node} (reading : Reading)
    (wellFormed : node.wellFormed = true) : node.skip reading = .ok () := by
  cases reading with
  | text depth => rw [skip, if_pos wellFormed]
  | value => rfl

namespace Reader

variable {reading : Reading}

theorem items_string_iff {nodes : List Node} {values : List String} :
    items string reading nodes = .ok values ↔ nodes = values.map .string := by
  induction nodes generalizing values with
  | nil => simp [items, eq_comm]
  | cons node rest ih =>
      simp only [items, Except.bind_eq_ok_iff, ih]
      cases node <;> cases values <;> simp [string, and_comm]

theorem list_string_iff {items : List Node} {values : List String} :
    list string reading (.array items true) = .ok values ↔
      (∃ inner, reading.enter = .ok inner) ∧ items = values.map .string := by
  simp [list, Except.bind_eq_ok_iff, items_string_iff]

theorem list_string_of_sameItems {node other : Node} {values : List String}
    (same : node.SameItems other) (read : list string reading node = .ok values) :
    ∃ others, list string reading other = .ok others ∧
      NameSet.ofList values = NameSet.ofList others := by
  obtain @⟨_, others, same⟩ := same
  obtain ⟨entered, rfl⟩ := list_string_iff.mp read
  have texts : others ∈ Set.range (List.map Node.string) := by
    rw [Set.range_list_map]
    intro item member
    obtain ⟨text, -, rfl⟩ := List.mem_map.mp ((same item).mpr member)
    exact ⟨text, rfl⟩
  obtain ⟨names, rfl⟩ := texts
  refine ⟨names, list_string_iff.mpr ⟨entered, rfl⟩, NameSet.ofList_congr fun name => ?_⟩
  simpa using same (.string name)

end Reader

namespace Identity

variable {reading : Reading} {node other : Node} {identity : Identity}

theorem apart_spellings : spellings.Pairwise Spelling.Apart := by decide

/-- Roles are held as a set, so an array of them is read as another list and counts as the same. -/
theorem suits_roles : Spelling.Suits ⟨["roles"], Node.SameItems⟩ reading
    (.defaulted "roles" (.list .string) [] [])
    fun roles same => NameSet.ofList roles = NameSet.ofList same where
  names := rfl
  reads := fun _ _ _ same read => Reader.list_string_of_sameItems same read

theorem reader_respelled
    (respelled : Record.RespelledNode spellings (fun node => node.wellFormed = true) node other)
    (read : reader reading node = .ok identity) : reader reading other = .ok identity := by
  obtain ⟨respelled⟩ := respelled
  rw [reader, Record.reader_object_iff (by decide)] at read ⊢
  obtain ⟨inner, ⟨userId, privacyLevel, roles, _⟩, entered, takes, passable, built⟩ := read
  obtain ⟨takesId, takesLevel, takesRoles, _⟩ := takes
  obtain ⟨_, takesId, rfl⟩ := respelled.takes takesId (Spelling.suits_named rfl) (fun _ => rfl)
    apart_spellings (by simp [spellings, Spelling.named, Field.names, Field.optional])
  obtain ⟨_, takesLevel, rfl⟩ := respelled.takes takesLevel (Spelling.suits_named rfl)
    (fun _ => rfl) apart_spellings
    (by simp [spellings, Spelling.named, Field.names, Field.defaulted])
  obtain ⟨same, takesRoles, sameRoles⟩ := respelled.takes takesRoles suits_roles (fun _ => rfl)
    apart_spellings (by simp [spellings])
  refine ⟨inner, ⟨userId, privacyLevel, same, ()⟩, entered,
    ⟨takesId, takesLevel, takesRoles, trivial⟩, ?_, ?_⟩
  · exact respelled.passable rfl (fun _ => Node.skip_of_wellFormed inner) passable
  · rw [← built]
    exact congrArg (Identity.mk userId privacyLevel) sameRoles.symm

end Identity

namespace SignIn

/-- The name of the generation as a field. -/
def tag : Field := .required versionField SignInVersion.reader []

variable {reading : Reading} {entries others : Entries} {version : SignInVersion}
  {signIn : SignIn} {extra : Nat → Node → Prop}

theorem isEntry_tag {key : String} {node : Node} :
    tag.isEntry (some key, node) = true ↔ key = versionField := by
  simp [Field.isEntry, Field.isNamed, tag, Field.required]

theorem meets_nil_iff {found result : Option SignInVersion} :
    tag.Meets reading found [] result ↔ found = result :=
  Field.meets_nil_iff

theorem meets_some_iff {found : SignInVersion} {result : Option SignInVersion} :
    tag.Meets reading (some found : Option SignInVersion) entries result ↔
      entries = [] ∧ result = some found :=
  Field.meets_some_iff

theorem meets_none_cons_iff {entry : Option String × Node} {result : Option SignInVersion} :
    tag.Meets reading (none : Option SignInVersion) (entry :: entries) result ↔
      ∃ version, SignInVersion.reader reading entry.2 = .ok version ∧ entries = [] ∧
        result = some version :=
  Field.meets_none_cons_iff

/-- The first pass over a payload finds its generation, and that its other fields are JSON. -/
theorem readVersion_ok_iff {found result : Option SignInVersion} :
    readVersion reading found entries = .ok result ↔
      tag.Meets reading found (tag.own entries) result ∧
        ∀ entry ∈ entries, entry.1.isSome ∧
          (entry.1 ≠ some versionField → entry.2.Reads reading) := by
  induction entries generalizing found with
  | nil => simp [readVersion, Field.own, meets_nil_iff]
  | cons entry rest ih =>
      obtain ⟨key, node⟩ := entry
      rw [List.forall_mem_cons]
      cases key with
      | none => simp [readVersion]
      | some key =>
          by_cases tagged : key = versionField
          · have owned : tag.own ((some key, node) :: rest) = (some key, node) :: tag.own rest :=
              List.filter_cons_of_pos (isEntry_tag.mpr tagged)
            rw [owned]
            cases found with
            | some version => simp [readVersion, tagged, meets_some_iff]
            | none =>
                simp only [readVersion, tagged, if_true, Except.bind_eq_ok_iff, ih, meets_some_iff,
                  meets_none_cons_iff]
                constructor
                · rintro ⟨version, read, ⟨only, rfl⟩, others⟩
                  exact ⟨⟨version, read, only, rfl⟩, by simp, others⟩
                · rintro ⟨⟨version, read, only, rfl⟩, -, others⟩
                  exact ⟨version, read, ⟨only, rfl⟩, others⟩
          · have left : tag.own ((some key, node) :: rest) = tag.own rest :=
              List.filter_cons_of_neg (isEntry_tag.not.mpr tagged)
            simp [readVersion, tagged, left, ih, Except.bind_eq_ok_iff, Node.Reads,
              and_left_comm]

theorem filter_eq_leave (entries : Entries) :
    (entries.filter fun entry => entry.1 != some versionField) = tag.leave entries := by
  refine List.filter_congr fun entry _ => ?_
  obtain ⟨key, node⟩ := entry
  cases key with
  | none => rfl
  | some key =>
      rw [Bool.eq_iff_iff, Bool.not_eq_true', ← Bool.not_eq_true, isEntry_tag]
      simp

/-- A payload is read as the record of its generation from all but the name of the generation. -/
theorem reader_object_iff : reader reading (.object entries true) = .ok signIn ↔
    ∃ inner version, reading.enter = .ok inner ∧ tag.Takes inner (tag.own entries) version ∧
      (∀ entry ∈ entries, entry.1.isSome ∧
        (entry.1 ≠ some versionField → entry.2.Reads inner)) ∧
      recordReader version .value (.object (tag.leave entries) true) = .ok signIn := by
  simp only [reader, Except.bind_eq_ok_iff, readVersion_ok_iff, filter_eq_leave, if_true]
  constructor
  · rintro ⟨inner, entered, found, ⟨meets, readable⟩, read⟩
    cases found with
    | none => contradiction
    | some version =>
        exact ⟨inner, version, entered, Field.takes_iff_meets.mpr ⟨_, meets, rfl⟩, readable, read⟩
  · rintro ⟨inner, version, entered, takes, readable, read⟩
    obtain ⟨found, meets, filled⟩ := Field.takes_iff_meets.mp takes
    cases found with
    | none => contradiction
    | some found =>
        cases filled
        exact ⟨inner, entered, some version, ⟨meets, readable⟩, read⟩

variable {spellings : List Spelling} {added : Node → Prop}

theorem reader_leave_respelled {α : Type} {fields : List Field} {build : Record.Values fields → α}
    {own : List Spelling} {value : α} (respelled : Record.Respelled spellings added entries others)
    (keys : ∀ entry ∈ others, entry.1.isSome) (apart : spellings.Pairwise Spelling.Apart)
    (fieldsApart : (tag :: fields).Pairwise Field.Apart) (among : own ⊆ spellings)
    (suits : List.Forall₂ (fun field spelling => spelling.Suits .value field Eq) fields own)
    (read : Record.reader fields build .value (.object (tag.leave entries) true) = .ok value) :
    Record.reader fields build .value (.object (tag.leave others) true) = .ok value := by
  obtain ⟨tagApart, fieldsApart⟩ := List.pairwise_cons.mp fieldsApart
  rw [Record.reader_object_iff fieldsApart] at read ⊢
  obtain ⟨inner, values, entered, takes, -, built⟩ := read
  cases entered
  rw [Record.takesAll_leave_iff tagApart] at takes
  refine ⟨.value, values, rfl, ?_, ?_, built⟩
  · rw [Record.takesAll_leave_iff tagApart]
    exact respelled.takesAll apart among suits takes
  · exact fun entry member => ⟨keys entry (List.mem_filter.mp member).1, fun _ => rfl⟩

theorem apart_spellings (extra : Nat → Node → Prop) (version : SignInVersion) :
    (Spelling.named [versionField] :: SignIn.spellings extra version).Pairwise Spelling.Apart := by
  cases version <;>
    simp [spellings, Tokens.spellings, Spelling.Apart, Spelling.named, versionField]

theorem recordReader_respelled
    (respelled : Record.Respelled (.named [versionField] :: SignIn.spellings extra version) added
      entries others)
    (keys : ∀ entry ∈ others, entry.1.isSome)
    (read : recordReader version .value (.object (tag.leave entries) true) = .ok signIn) :
    recordReader version .value (.object (tag.leave others) true) = .ok signIn := by
  have apart := apart_spellings extra version
  have among := List.subset_cons_self (.named [versionField]) (SignIn.spellings extra version)
  cases version with
  | v1 =>
      have suits : List.Forall₂ (fun field spelling => spelling.Suits .value field Eq)
          [.optional "uin" .string ["uiucedu_uin"]] (SignIn.spellings extra .v1) :=
        .cons (Spelling.suits_named rfl) .nil
      exact reader_leave_respelled respelled keys apart (by decide) among suits read
  | v2 =>
      -- Both records of the payload are read from the same fields.
      have user : Spelling.Suits ⟨["user_info"], Record.RespelledNode Profile.spellings (extra 3)⟩
          .value (.optional "user_info" Profile.reader []) Eq :=
        Spelling.suits_record rfl rfl (by decide) fun _ _ => rfl
      have phone : List.Forall₂ (fun field spelling => spelling.Suits .value field Eq)
          [.optional "id_token" .string [], .optional "access_token" .string [],
            .optional "refresh_token" .string [], .optional "phone_number" .string ["phone"]]
          Tokens.spellings :=
        .cons (Spelling.suits_named rfl) (.cons (Spelling.suits_named rfl)
          (.cons (Spelling.suits_named rfl) (.cons (Spelling.suits_named rfl) .nil)))
      simp only [recordReader, v2Reader, Except.bind_eq_ok_iff] at read ⊢
      obtain ⟨profile, readProfile, tokens, readTokens, built⟩ := read
      refine ⟨profile, ?_, tokens, ?_, built⟩
      · exact reader_leave_respelled respelled keys apart (by decide)
          (List.cons_subset.mpr ⟨among List.mem_cons_self, List.nil_subset _⟩) (.cons user .nil)
          readProfile
      · exact reader_leave_respelled respelled keys apart (by decide)
          (List.Subset.trans (List.subset_cons_self _ _) among) phone readTokens
  | v3 =>
      have suits : List.Forall₂ (fun field spelling => spelling.Suits .value field Eq)
          [.optional "token" Tokens.reader [], .optional "user" Profile.reader [],
            .optional "card" Card.reader [], .optional "pii" PersonalData.reader []]
          (SignIn.spellings extra .v3) := by
        refine .cons ?_ (.cons ?_ (.cons ?_ (.cons ?_ .nil)))
        · exact Spelling.suits_record rfl rfl (by decide) fun _ _ => rfl
        · exact Spelling.suits_record rfl rfl (by decide) fun _ _ => rfl
        · exact Spelling.suits_record rfl rfl (by decide) fun _ _ => rfl
        · exact Spelling.suits_record rfl rfl (by decide) fun _ _ => rfl
      exact reader_leave_respelled respelled keys apart (by decide) among suits read

theorem reads_respelled {node other : Node} {spelling : Spelling}
    (member : spelling ∈ SignIn.spellings Node.IsDocument version)
    (respells : spelling.respells node other) (reads : node.Reads (.text 2)) :
    other.Reads (.text 2) := by
  have record {spellings : List Spelling}
      (plain : ∀ spelling ∈ spellings, ∀ node other, ¬spelling.respells node other)
      (respelled : Record.RespelledNode spellings (Node.IsDocument 3) node other) :
      other.Reads (.text 2) :=
    respelled.reads rfl (fun _ isDocument => isDocument.reads)
      (fun spelling member _ _ respells => absurd respells (plain spelling member _ _)) reads
  cases version with
  | v1 =>
      rw [List.mem_singleton.mp member] at respells
      exact respells.elim
  | v2 =>
      rcases List.mem_cons.mp member with rfl | ofTokens
      · exact record (by simp [Profile.spellings, Spelling.named]) respells
      · have plain : ∀ spelling ∈ Tokens.spellings, ∀ node other,
            ¬spelling.respells node other := by
          simp [Tokens.spellings, Spelling.named]
        exact absurd respells (plain spelling ofTokens node other)
  | v3 =>
      simp only [SignIn.spellings, List.mem_cons, List.not_mem_nil, or_false] at member
      rcases member with rfl | rfl | rfl | rfl
      · exact record (by simp [Tokens.spellings, Spelling.named]) respells
      · exact record (by simp [Profile.spellings, Spelling.named]) respells
      · exact record (by simp [Card.spellings, Spelling.named]) respells
      · exact record (by simp [PersonalData.spellings, Spelling.named]) respells

theorem eq_of_tagged {found : SignInVersion} (takes : tag.Takes reading (tag.own entries) found)
    (tagged : (some versionField, .string version.name) ∈ entries) : found = version := by
  have owned : (some versionField, .string version.name) ∈ tag.own entries :=
    List.mem_filter.mpr ⟨tagged, isEntry_tag.mpr rfl⟩
  rcases Field.takes_iff.mp takes with ⟨entry, only, read⟩ | ⟨none, -⟩
  · rw [only, List.mem_singleton] at owned
    subst owned
    have named : SignInVersion.reader reading (.string version.name) = .ok version := by
      cases version <;> rfl
    exact Except.ok.inj (read.symm.trans named)
  · rw [none] at owned
    contradiction

theorem reader_respelled {node other : Node} (respelled : Respelled Node.IsDocument node other)
    (read : reader (.text 1) node = .ok signIn) : reader (.text 1) other = .ok signIn := by
  obtain @⟨version, entries, others, tagged, respelled⟩ := respelled
  rw [reader_object_iff] at read ⊢
  obtain ⟨inner, found, entered, takes, readable, read⟩ := read
  cases entered
  cases eq_of_tagged takes tagged
  have apart := apart_spellings Node.IsDocument version
  obtain ⟨_, takes, rfl⟩ := respelled.takes takes (Spelling.suits_named rfl) (fun _ => rfl) apart
    List.mem_cons_self
  have readable := respelled.forall_mem ?_ ?_ ?_ readable
  · exact ⟨.text 2, _, rfl, takes, readable,
      recordReader_respelled respelled (fun entry member => (readable entry member).1) read⟩
  · exact fun _ _ _ isDocument => ⟨rfl, fun _ => isDocument.reads⟩
  · intro spelling member old oldName new newName node good
    refine ⟨rfl, fun notTag => good.2 fun isTag => notTag ?_⟩
    -- Only the name of the generation has that name, and it has no other.
    cases isTag
    rw [Spelling.eq_of_mem_names apart member List.mem_cons_self oldName List.mem_cons_self]
      at newName
    rw [List.mem_singleton.mp newName]
  · intro spelling member name isName node other respells good
    refine ⟨rfl, fun notTag => ?_⟩
    rcases List.mem_cons.mp member with rfl | ofRecord
    · exact respells.elim
    · exact reads_respelled ofRecord respells (good.2 notTag)

end SignIn

namespace Caller

variable {node other : Node} {caller : Caller} {text : String}

theorem apart_spellings (extra : Nat → Node → Prop) :
    (spellings extra).Pairwise Spelling.Apart := by
  simp [spellings, Spelling.Apart]

theorem reader_respelled (respelled : Respelled Node.IsDocument node other)
    (read : reader (.text 0) node = .ok caller) : reader (.text 0) other = .ok caller := by
  have passes : ∀ node : Node, node.wellFormed = true → node.skip (.text 1) = .ok () :=
    fun _ => Node.skip_of_wellFormed (.text 1)
  refine Record.RespelledNode.reader respelled rfl (by decide) (apart_spellings _) ?_ passes read
  refine .cons ?_ (.cons ?_ (.cons ?_ (.cons ?_ .nil)))
  · exact Spelling.suits_optional (fun _ _ respelled => respelled.ne_null)
      fun _ _ _ respelled => Identity.reader_respelled respelled
  · refine Spelling.suits_optional ?_ fun _ _ _ respelled => SignIn.reader_respelled respelled
    rintro _ _ ⟨_, _⟩
    exact ⟨nofun, nofun⟩
  · exact Spelling.suits_record rfl rfl (by decide) fun _ => Node.skip_of_wellFormed (.text 2)
  · exact Spelling.suits_record rfl rfl (by decide) fun _ => Node.skip_of_wellFormed (.text 2)

theorem reader_of_run (run : Relation.ReflTransGen (Respelled Node.IsDocument) node other)
    (read : reader (.text 0) node = .ok caller) : reader (.text 0) other = .ok caller := by
  induction run with
  | refl => exact read
  | tail _ step ih => exact reader_respelled step ih

/-- A text that spells a caller in another way gives the caller. -/
theorem decodeText_respelled {other : String}
    (respelled : Relation.ReflTransGen (Respelled Node.IsDocument)
      (Scanner.scan (Symbol.ofString text)).node (Scanner.scan (Symbol.ofString other)).node)
    (clean : (Scanner.scan (Symbol.ofString other)).clean = true)
    (decoded : reader.decodeText text = .ok caller) : reader.decodeText other = .ok caller := by
  simp only [Reader.decodeText, Reader.decode, Except.bind_eq_ok_iff] at decoded ⊢
  obtain ⟨found, read, same⟩ := decoded
  split at same
  · cases same
    exact ⟨caller, reader_of_run respelled read, by rw [if_pos clean]⟩
  · contradiction

def currentText : String :=
  "\x7b\"identity\":\x7b\"roles\":[\"a\",\"b\"]\x7d," ++
    "\"auth\":\x7b\"version\":\"v2\",\"phone_number\":\"5\"\x7d\x7d"

def olderText : String :=
  "\x7b\"user\":\x7b\"roles\":[\"b\",\"a\",\"b\"]\x7d," ++
    "\"auth\":\x7b\"phone\":\"5\",\"x\":[1],\"version\":\"v2\"\x7d\x7d"

/-- A caller in JSON with a name for the identity, roles and a sign-in payload. -/
def sample (identity : String) (roles : List Node) (payload : Entries) : Node :=
  .object [(some identity, .object [(some "roles", .array roles true)] true),
    (some "auth", .object payload true)] true

set_option maxRecDepth 4000 in
theorem scan_currentText : Scanner.scan (Symbol.ofString currentText) =
    ⟨sample "identity" [.string "a", .string "b"]
      [(some "version", .string "v2"), (some "phone_number", .string "5")], true⟩ := by
  cbv

set_option maxRecDepth 4000 in
theorem scan_olderText : Scanner.scan (Symbol.ofString olderText) =
    ⟨sample "user" [.string "b", .string "a", .string "b"]
      [(some "phone", .string "5"), (some "x", .array [.whole 1] true),
        (some "version", .string "v2")], true⟩ := by
  cbv

theorem respelled_samples : Relation.ReflTransGen (Respelled Node.IsDocument)
    (Scanner.scan (Symbol.ofString currentText)).node
    (Scanner.scan (Symbol.ofString olderText)).node := by
  rw [scan_currentText, scan_olderText]
  let version : Option String × Node := (some SignIn.versionField, .string SignInVersion.v2.name)
  let roles : List Node := [.string "a", .string "b"]
  let repeated : List Node := [.string "b", .string "a", .string "b"]
  let number : Node := .string "5"
  let unknown : Node := .array [.whole 1] true
  have renamed (payload : Entries) : Respelled Node.IsDocument (sample "identity" roles payload)
      (sample "user" roles payload) :=
    .object (@Record.Respelled.rename _ _ [] _ _ "identity" "user" _ List.mem_cons_self
      (by simp) (by simp))
  have inIdentity (payload : Entries) : Respelled Node.IsDocument (sample "user" roles payload)
      (sample "user" repeated payload) := by
    have same : Node.SameItems (.array roles true) (.array repeated true) :=
      .array (by simp [roles, repeated, or_comm])
    have inRoles : Record.Respelled Identity.spellings (fun node => node.wellFormed = true)
        [(some "roles", .array roles true)] [(some "roles", .array repeated true)] :=
      @Record.Respelled.inside _ _ [] [] ⟨["roles"], Node.SameItems⟩ "roles" _ _
        (by simp [Identity.spellings]) (by simp) same
    exact .object (@Record.Respelled.inside _ _ [] _ _ "user" _ _ List.mem_cons_self (by simp)
      (.object inRoles))
  have inPayload {entries others : Entries} (tagged : version ∈ entries)
      (respelled : Record.Respelled
        (.named [SignIn.versionField] :: SignIn.spellings Node.IsDocument .v2) (Node.IsDocument 2)
        entries others) :
      Respelled Node.IsDocument (sample "user" repeated entries) (sample "user" repeated others) :=
    .object (@Record.Respelled.inside _ _ [_] [] _ "auth" _ _
      (List.mem_cons_of_mem _ List.mem_cons_self) (by simp) (.payload tagged respelled))
  have moved : Respelled Node.IsDocument
      (sample "user" repeated [version, (some "phone_number", number)])
      (sample "user" repeated [(some "phone_number", number), version]) :=
    inPayload List.mem_cons_self (.permute (List.Perm.swap _ _ []))
  have older : Respelled Node.IsDocument
      (sample "user" repeated [(some "phone_number", number), version])
      (sample "user" repeated [(some "phone", number), version]) :=
    inPayload (by simp) (@Record.Respelled.rename _ _ [] [version]
      (.named ["phone_number", "phone"]) "phone_number" "phone" number
      (by simp [SignIn.spellings, Tokens.spellings]) (by simp [Spelling.named])
      (by simp [Spelling.named]))
  have added : Respelled Node.IsDocument
      (sample "user" repeated [(some "phone", number), version])
      (sample "user" repeated [(some "phone", number), (some "x", unknown), version]) :=
    inPayload (by simp) (@Record.Respelled.insert _ _ [(some "phone", number)] [version] "x" unknown
      (by simp [SignIn.spellings, Tokens.spellings, Spelling.named, SignIn.versionField])
      ⟨.array [.whole 1], rfl, by decide⟩)
  exact .head (renamed _) (.head (inIdentity _) (.head moved (.head older (.single added))))

theorem olderText_decoded : ∃ caller, reader.decodeText currentText = .ok caller ∧
    reader.decodeText olderText = .ok caller ∧ caller.hasRole "b" = true ∧
    caller.signIn = some (.v2 ⟨none, none, none, some "5"⟩ none) := by
  have decoded : reader.decodeText currentText =
      .ok ⟨some ⟨none, 0, .ofList ["a", "b"]⟩,
        some (.v2 ⟨none, none, none, some "5"⟩ none), none, none⟩ := by
    decide +kernel
  have clean : (Scanner.scan (Symbol.ofString olderText)).clean = true := by rw [scan_olderText]
  exact ⟨_, decoded, decodeText_respelled respelled_samples clean decoded, by decide +kernel, rfl⟩

/-- A payload of the first generation with a field that it does not know. -/
def payload (added : Entries) : Node :=
  .object [(some "auth", .object ((some SignIn.versionField, .string "v1") :: added) true)] true

def plainText : String := "\x7b\"auth\":\x7b\"version\":\"v1\"\x7d\x7d"

def overflowingText : String := "\x7b\"auth\":\x7b\"version\":\"v1\",\"x\":1e999\x7d\x7d"

def tooLarge : Scanner.OpenNumeral := ⟨.exponent, false, [1], none, false, some [9, 9, 9]⟩

theorem ofNumeral_tooLarge : Node.ofNumeral tooLarge.numeral = .unreadable := by
  have notInteger : tooLarge.numeral.toInteger? = none := rfl
  have noNumber : tooLarge.numeral.toNumber? = none := by decide +kernel
  rw [Node.ofNumeral, notInteger, noNumber]

set_option maxRecDepth 4000 in
theorem scan_overflowingText : Scanner.scan (Symbol.ofString overflowingText) =
    ⟨payload [(some "x", .unreadable)], true⟩ := by
  -- The numeral is a node of its own when the first brace behind it has been scanned.
  let frames : List Scanner.Frame :=
    [.member [(some "version", .string "v1")] (some "x"), .member [] (some "auth")]
  have begun : ((Symbol.ofString overflowingText).take 33).foldl Scanner.step Scanner.start =
      .reading frames (.numeral tooLarge) := by
    cbv
  have behind : (Symbol.ofString overflowingText).drop 33 = [some '\x7d', some '\x7d'] := by
    decide +kernel
  have ended : Scanner.step (.reading frames (.numeral tooLarge)) (some '\x7d') =
      Scanner.stepToken (Scanner.finish frames (.ofNumeral tooLarge.numeral)) (some '\x7d') := rfl
  rw [Scanner.scan, ← List.take_append_drop 33 (Symbol.ofString overflowingText),
    List.foldl_append, begun, behind, List.foldl_cons, ended, ofNumeral_tooLarge]
  rfl

/-- A number that is too large is well-formed, yet a payload with one is not read. -/
theorem overflowingText_refused :
    Scanner.scan (Symbol.ofString plainText) = ⟨payload [], true⟩ ∧
      Scanner.scan (Symbol.ofString overflowingText) =
        ⟨payload [(some "x", .unreadable)], true⟩ ∧
      Node.wellFormed .unreadable = true ∧
      Respelled (fun _ node => node.wellFormed = true) (payload [])
        (payload [(some "x", .unreadable)]) ∧
      reader.decodeText plainText = .ok ⟨none, some (.v1 none), none, none⟩ ∧
      reader.decodeText overflowingText = .error .malformed := by
  refine ⟨by cbv, scan_overflowingText, rfl, ?_, by decide +kernel, by decide +kernel⟩
  have inserted : Record.Respelled
      (.named [SignIn.versionField] :: SignIn.spellings (fun _ node => node.wellFormed = true) .v1)
      (fun node => node.wellFormed = true) [(some SignIn.versionField, .string "v1")]
      [(some SignIn.versionField, .string "v1"), (some "x", .unreadable)] :=
    @Record.Respelled.insert _ _ [_] [] "x" _
      (by simp [SignIn.spellings, Spelling.named, SignIn.versionField]) rfl
  exact .object (@Record.Respelled.inside _ _ [] [] _ "auth" _ _
    (List.mem_cons_of_mem _ List.mem_cons_self) (by simp)
    (@SignIn.Respelled.payload _ .v1 _ _ List.mem_cons_self inserted))

end Caller

end Audience
