import Audience.Proofs.Json.Inline
import Audience.Proofs.Json.Objects
import Audience.Proofs.Lines
import Audience.Service.Conversation

namespace Audience

/-! A stream of requests and its replies.

Each line that is neither blank nor behind a line that is no text gets a reply of its own, which
takes one line and is made from that line and the snapshot alone.
-/

/-- A JSON value names the data version that it asks for: an object in a field, an array in its
first item. -/
inductive Node.NamesVersion : Node → String → Prop
  | field {entries : Entries} {closed : Bool} {version : String}
      (member : (some "data_version", .string version) ∈ entries) :
      NamesVersion (.object entries closed) version
  | item {rest : List Node} {closed : Bool} {version : String} :
      NamesVersion (.array (.string version :: rest) closed) version

/-- The data version that a JSON value asks for is the one it names, otherwise the default. -/
inductive Node.AsksFor (node : Node) (defaultVersion : String) : String → Prop
  | named {version : String} (names : node.NamesVersion version) :
      AsksFor node defaultVersion version
  | default (unnamed : ∀ version, ¬node.NamesVersion version) :
      AsksFor node defaultVersion defaultVersion

namespace QueryRequest

variable {line : String} {node : Node} {request : QueryRequest} {version : Option String}
  {reading : Reading} {entries : Entries}

def versionField : Field := .optional "data_version" .string []

theorem isEntry_versionField_iff {entry : Option String × Node} :
    versionField.isEntry entry = true ↔ entry.1 = some "data_version" := by
  obtain ⟨key, node⟩ := entry
  cases key <;> simp [Field.isEntry, Field.isNamed, versionField, Field.optional]

theorem optional_string_ok_iff {text : String} :
    Reader.optional .string reading node = .ok (some text) ↔ node = .string text := by
  cases node <;> simp [Reader.optional, Reader.string, Except.map]

theorem takes_version_iff (takes : versionField.Takes reading (versionField.own entries) version)
    {text : String} : version = some text ↔ (some "data_version", .string text) ∈ entries := by
  have own {entry : Option String × Node} :
      entry ∈ versionField.own entries ↔ entry ∈ entries ∧ entry.1 = some "data_version" := by
    rw [Field.own, List.mem_filter, isEntry_versionField_iff]
  have named : (some "data_version", .string text) ∈ entries ↔
      (some "data_version", .string text) ∈ versionField.own entries := by
    simp [own]
  rw [named]
  -- The field has one entry of its own, whose value is a text or null, or none.
  rcases Field.takes_iff.mp takes with ⟨entry, owned, reads⟩ | ⟨owned, absent⟩
  · obtain ⟨key, node⟩ := entry
    have isNamed : key = some "data_version" := (own.mp (owned ▸ List.mem_cons_self)).2
    have reads : Reader.optional .string reading node = .ok version := reads
    rw [owned, List.mem_singleton, Prod.mk.injEq, isNamed]
    constructor
    · rintro rfl
      exact ⟨rfl, (optional_string_ok_iff.mp reads).symm⟩
    · rintro ⟨-, rfl⟩
      exact (Except.ok.inj reads).symm
  · have absent : some none = some version := absent
    rw [owned, ← Option.some.inj absent]
    simp

/-- A request that was read is for the version that its JSON names. -/
theorem version_eq_some_iff (read : reader reading node = .ok request) {text : String} :
    request.version = some text ↔ node.NamesVersion text := by
  obtain ⟨inner, ⟨version, caller, _⟩, -, built, form⟩ := Record.reader_ok read
  have given : request.version = version := congrArg QueryRequest.version built.symm
  rw [given]
  rcases form with ⟨entries, rfl, filled⟩ | ⟨nodes, closed, rfl, filled⟩
  · obtain ⟨⟨takes, -⟩, -⟩ := (Record.ofObject_ok_iff (by decide)).mp filled
    rw [takes_version_iff takes]
    exact ⟨.field, fun | .field member => member⟩
  · rcases Record.inOrder_first filled with ⟨rfl, beyond⟩ | ⟨first, rest, rfl, reads⟩
    · have absent : some none = some version := beyond
      rw [← Option.some.inj absent]
      exact ⟨nofun, nofun⟩
    · have reads : Reader.optional .string inner first = .ok version := reads
      constructor
      · rintro rfl
        rw [optional_string_ok_iff.mp reads]
        exact .item
      · intro names
        cases names with
        | item => exact (Except.ok.inj reads).symm

theorem read_of_ofLine (decoded : ofLine line = .ok request) :
    reader (.text 0) (Scanner.scan (Symbol.ofString line)).node = .ok request := by
  simp only [ofLine, Reader.decodeText, Reader.decode, bind, Except.bind] at decoded
  cases outcome : reader (.text 0) (Scanner.scan (Symbol.ofString line)).node with
  | error reason => simp [outcome] at decoded
  | ok value =>
      simp only [outcome] at decoded
      split at decoded
      · exact decoded
      · contradiction

theorem asksFor_iff (decoded : ofLine line = .ok request) {defaultVersion asked : String} :
    (Scanner.scan (Symbol.ofString line)).node.AsksFor defaultVersion asked ↔
      asked = request.version.getD defaultVersion := by
  have named {text : String} : request.version = some text ↔
      (Scanner.scan (Symbol.ofString line)).node.NamesVersion text :=
    version_eq_some_iff (read_of_ofLine decoded)
  constructor
  · intro asks
    cases asks with
    | named names => simp [named.mpr names]
    | default unnamed =>
        cases given : request.version with
        | none => rfl
        | some text => exact absurd (named.mp given) (unnamed text)
  · rintro rfl
    cases given : request.version with
    | none =>
        refine .default fun text names => ?_
        rw [named.mpr names] at given
        contradiction
    | some text => exact .named (named.mp given)

end QueryRequest

namespace Snapshot

variable {snapshot : Snapshot} {defaultVersion line : String}

/-- The reply to a line is made from the line and the snapshot. -/
theorem reply_cases (snapshot : Snapshot) (defaultVersion line : String) :
    (∃ cause, QueryRequest.ofLine line = .error cause ∧
      snapshot.reply defaultVersion line = .malformed cause) ∨
    ∃ request, QueryRequest.ofLine line = .ok request ∧
      ((snapshot.catalog.get? (request.version.getD defaultVersion) = none ∧
        snapshot.reply defaultVersion line =
          .refused (.unknownVersion (request.version.getD defaultVersion))) ∨
      ∃ tree, snapshot.catalog.get? (request.version.getD defaultVersion) = some tree ∧
        snapshot.reply defaultVersion line = .content (tree.assemble request.caller)) := by
  cases decoded : QueryRequest.ofLine line with
  | error cause => exact .inl ⟨cause, rfl, by simp [reply, decoded]⟩
  | ok request =>
      refine .inr ⟨request, rfl, ?_⟩
      cases found : snapshot.catalog.get? (request.version.getD defaultVersion) with
      | none =>
          refine .inl ⟨rfl, ?_⟩
          simp [reply, decoded, answer, view, tree, found, Except.map]
      | some tree =>
          refine .inr ⟨tree, rfl, ?_⟩
          simp [reply, decoded, answer, view, Snapshot.tree, found, Except.map]

/-- A line is answered with an error when it is no request or asks for an unknown version. -/
theorem reply_error_iff :
    (∃ message, (snapshot.reply defaultVersion line).toJson =
        .object [("error", .string message)]) ↔
      ¬∃ request version, QueryRequest.ofLine line = .ok request ∧
        (Scanner.scan (Symbol.ofString line)).node.AsksFor defaultVersion version ∧
        snapshot.catalog.contains version = true := by
  rcases reply_cases snapshot defaultVersion line with
    ⟨cause, undecoded, replied⟩ | ⟨request, decoded, ⟨unknown, replied⟩ | ⟨tree, found, replied⟩⟩
  · simp [replied, Reply.toJson, undecoded]
  · refine iff_of_true ⟨_, by rw [replied]; rfl⟩ ?_
    rintro ⟨other, version, -, asks, present⟩
    rw [(QueryRequest.asksFor_iff decoded).mp asks, SortedMap.contains, unknown] at present
    contradiction
  · refine iff_of_false (by simp [replied, Reply.toJson]) (not_not_intro ?_)
    have known : snapshot.catalog.contains (request.version.getD defaultVersion) = true := by
      rw [SortedMap.contains, found]
      rfl
    exact ⟨request, _, decoded, (QueryRequest.asksFor_iff decoded).mpr rfl, known⟩

/-- Otherwise it is answered with what the caller sees of the version. -/
theorem reply_ok_iff {document : Json} :
    (snapshot.reply defaultVersion line).toJson = .object [("ok", document)] ↔
      ∃ request version tree, QueryRequest.ofLine line = .ok request ∧
        (Scanner.scan (Symbol.ofString line)).node.AsksFor defaultVersion version ∧
        snapshot.catalog.get? version = some tree ∧
        document = (tree.assemble request.caller).toJson := by
  rcases reply_cases snapshot defaultVersion line with
    ⟨cause, undecoded, replied⟩ | ⟨request, decoded, ⟨unknown, replied⟩ | ⟨tree, found, replied⟩⟩
  · simp [replied, Reply.toJson, undecoded]
  · simp [replied, Reply.toJson, decoded, QueryRequest.asksFor_iff decoded, unknown]
  · simp [replied, Reply.toJson, decoded, QueryRequest.asksFor_iff decoded, found, eq_comm]

end Snapshot

namespace Conversation

theorem exists_ofLines (snapshot : Snapshot) (defaultVersion : String)
    (lines : List (List UInt8)) :
    ∃ (texts : List String) (rest : List (List UInt8)), lines = texts.map bytesOfText ++ rest ∧
      (∀ line ∈ rest.head?, ¬(ByteArray.mk line.toArray).IsValidUTF8) ∧
      ofLines snapshot defaultVersion lines =
        ⟨(texts.filter fun text => !allBlank text).map (snapshot.reply defaultVersion),
          rest.isEmpty⟩ := by
  induction lines with
  | nil => exact ⟨[], [], rfl, nofun, rfl⟩
  | cons line others ih =>
      cases read : textOfBytes? line with
      | none =>
          -- Nothing is read behind this line.
          refine ⟨[], line :: others, rfl, ?_, by simp [ofLines, read]⟩
          intro first isFirst
          cases isFirst
          exact textOfBytes?_eq_none_iff.mp read
      | some text =>
          obtain ⟨texts, rest, parts, invalid, answered⟩ := ih
          have bytes := textOfBytes?_eq_some_iff.mp read
          refine ⟨text :: texts, rest, by simp [parts, bytes], invalid, ?_⟩
          by_cases blank : allBlank text <;> simp [ofLines, read, answered, blank]

theorem bytesOfText_output (conversation : Conversation) :
    bytesOfText conversation.output =
      conversation.replies.flatMap fun reply => bytesOfText reply.text ++ [Lines.newline] := by
  rw [output]
  induction conversation.replies with
  | nil => rfl
  | cons reply rest ih =>
      have newline : bytesOfText "\n" = [Lines.newline] := by decide
      rw [List.map_cons, String.join_cons, bytesOfText_append, bytesOfText_append, ih, newline,
        List.flatMap_cons]

theorem le_of_mem_reply (reply : Reply) : ∀ byte ∈ bytesOfText reply.text, 0x20 ≤ byte :=
  reply.toJson.le_of_mem_text

/-- A client that splits what is written at its newlines meets the replies. -/
theorem splits_output (conversation : Conversation) :
    Lines.Splits (bytesOfText conversation.output)
      (conversation.replies.map fun reply => bytesOfText reply.text) := by
  rw [bytesOfText_output]
  induction conversation.replies with
  | nil => exact .nothing
  | cons reply rest ih =>
      have unbroken : Lines.newline ∉ bytesOfText reply.text := fun member =>
        absurd (le_of_mem_reply reply _ member) (by decide)
      have noReturn : (bytesOfText reply.text).getLast? ≠ some Lines.carriageReturn := fun last =>
        absurd (le_of_mem_reply reply _ (List.mem_of_getLast? last)) (by decide)
      simpa using Lines.Splits.ended unbroken noReturn ih

/-- What is written and returned for a stream of requests. -/
structure Served (snapshot : Snapshot) (defaultVersion : String) (input : ByteArray) : Prop where
  /-- The lines in front of the first that is no text are answered in order, unless they are blank.
  In the end their number is returned, or the fault of that first line. -/
  lines : ∃ (texts : List String) (rest : List (List UInt8)),
    Lines.Splits input.toList (texts.map bytesOfText ++ rest) ∧
    (∀ line ∈ rest.head?, ¬(ByteArray.mk line.toArray).IsValidUTF8) ∧
    bytesOfText (ofInput snapshot defaultVersion input).output =
      (texts.filter fun text => !allBlank text).flatMap (fun line =>
        bytesOfText (snapshot.reply defaultVersion line).toJson.text ++ [Lines.newline]) ∧
    (ofInput snapshot defaultVersion input).answered =
      if rest = [] then .ok (texts.filter fun text => !allBlank text).length
      else .error unreadableMessage
  /-- A reply takes one line. -/
  unbroken : ∀ line, ∀ byte ∈ bytesOfText (snapshot.reply defaultVersion line).toJson.text,
    0x20 ≤ byte
  /-- An error takes one line whatever it says. -/
  escaped : ∀ message, ∀ byte ∈ bytesOfText (Json.object [("error", .string message)]).text,
    0x20 ≤ byte
  refused : ∀ line,
    (∃ message, (snapshot.reply defaultVersion line).toJson =
        .object [("error", .string message)]) ↔
      ¬∃ request version, QueryRequest.ofLine line = .ok request ∧
        (Scanner.scan (Symbol.ofString line)).node.AsksFor defaultVersion version ∧
        snapshot.catalog.contains version = true
  granted : ∀ line document,
    (snapshot.reply defaultVersion line).toJson = .object [("ok", document)] ↔
      ∃ request version tree, QueryRequest.ofLine line = .ok request ∧
        (Scanner.scan (Symbol.ofString line)).node.AsksFor defaultVersion version ∧
        snapshot.catalog.get? version = some tree ∧
        document = (tree.assemble request.caller).toJson

/-- Every line of a stream that is to be answered gets a reply of its own, which the line and the
snapshot decide. -/
theorem ofInput_serves (snapshot : Snapshot) (defaultVersion : String) (input : ByteArray) :
    Served snapshot defaultVersion input where
  lines := by
    obtain ⟨texts, rest, parts, invalid, served⟩ :=
      exists_ofLines snapshot defaultVersion (Lines.split input.toList)
    have served : ofInput snapshot defaultVersion input = _ := served
    refine ⟨texts, rest, parts ▸ Lines.splits_split input.toList, invalid, ?_, ?_⟩
    · rw [bytesOfText_output, served, List.flatMap_map]
      rfl
    · rw [served, answered, List.length_map]
      cases rest <;> simp
  unbroken := fun _ => le_of_mem_reply _
  escaped := fun _ => Json.le_of_mem_text _
  refused := fun _ => Snapshot.reply_error_iff
  granted := fun _ _ => Snapshot.reply_ok_iff

end Conversation

end Audience
