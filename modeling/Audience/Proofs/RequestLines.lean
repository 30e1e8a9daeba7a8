import Audience.CommandLine.Commands
import Audience.Proofs.Json.Depth
import Audience.Proofs.Json.Embedded

namespace Audience

/-! A caller in a request line and in a text of its own.

A line holds the text of the caller as the value of a field, so it is scanned inside the object of
the request and read one level deeper.  Neither changes what it gives, hence the reply to the line
and the command for a single query tell the same of the caller.
-/

/-- What a request line says about the data version. -/
inductive Naming where
  | named (version : String)
  | null
  | leftOut

namespace Naming

def version? : Naming → Option String
  | named version => some version
  | null | leftOut => none

/-- The field for the version with the comma behind it. -/
def chars : Naming → List Char
  | named version =>
      Json.quote "data_version" ++ ':' :: ' ' :: (Json.quote version ++ [',', ' '])
  | null => Json.quote "data_version" ++ ':' :: ' ' :: ("null".toList ++ [',', ' '])
  | leftOut => []

/-- A request line with the text of a caller in it. -/
def line (naming : Naming) (context : String) : String :=
  String.ofList ('\x7b' :: (naming.chars ++
    (Json.quote "context" ++ ':' :: ' ' :: (context.toList ++ ['\x7d']))))

example : (named "2.2").line "\x7b\x7d" =
    "\x7b\"data_version\": \"2.2\", \"context\": \x7b\x7d\x7d" := by decide +kernel

/-- The fields of a request in front of the caller. -/
def entries : Naming → Entries
  | named version => [(some "data_version", .string version)]
  | null => [(some "data_version", .null)]
  | leftOut => []

end Naming

namespace Scanner

variable {mode : Mode} {frames : List Frame} {fields : Entries}

theorem scan_keySpace (opensKey : OpensKey mode) (key : String) (rest : List Char) :
    ((Json.quote key ++ ':' :: ' ' :: rest).map some).foldl step
        (.reading (.object fields :: frames) mode) =
      (rest.map some).foldl step (.reading (.member fields (some key) :: frames) .value) := by
  have parts : Json.quote key ++ ':' :: ' ' :: rest =
      (Json.quote key ++ [':']) ++ ' ' :: rest := by simp
  rw [parts, List.map_append, List.foldl_append, scan_keyColon opensKey]
  rfl

theorem scan_naming (naming : Naming) : ∃ mode, OpensKey mode ∧
    (('\x7b' :: naming.chars).map some).foldl step start =
      .reading [.object naming.entries] mode := by
  have opened : step start (some '\x7b') = .reading [.object []] .firstKey :=
    step_openObject .value []
  cases naming with
  | leftOut => exact ⟨.firstKey, .firstKey, opened⟩
  | null =>
      refine ⟨.key, .key, ?_⟩
      rw [Naming.chars, List.map_cons, List.foldl_cons, opened, scan_keySpace .firstKey]
      rfl
  | named version =>
      refine ⟨.key, .key, ?_⟩
      rw [Naming.chars, List.map_cons, List.foldl_cons, opened, scan_keySpace .firstKey,
        List.map_append, List.foldl_append, scan_string .value]
      rfl

theorem scan_line (naming : Naming) {context : String} {node : Node}
    (scanned : scan (Symbol.ofString context) = ⟨node, true⟩) (whole : node.IsWhole) :
    scan (Symbol.ofString (naming.line context)) =
      ⟨.object ((some "context", node) :: naming.entries).reverse true, true⟩ := by
  obtain ⟨mode, opensKey, front⟩ := scan_naming naming
  have within := foldl_embedded naming.entries (some "context") [] scanned whole
  rw [Symbol.ofString] at within
  rw [scan, Naming.line, Symbol.ofString_ofList, ← List.cons_append, List.map_append,
    List.foldl_append, front, scan_keySpace opensKey, List.map_append, List.foldl_append, within]
  rfl

end Scanner

/-- An array that gives the fields of a record ends. -/
theorem Record.closed_of_inOrder {fields : List Field} {reading : Reading} {closed : Bool}
    {nodes : List Node} {values : Record.Values fields}
    (ordered : Record.inOrder reading closed fields nodes = .ok values) : closed = true := by
  induction fields generalizing nodes with
  | nil =>
      cases nodes with
      | nil => cases closed <;> simp_all [Record.inOrder]
      | cons node rest => cases reading <;> cases ordered
  | cons field fields ih =>
      cases nodes with
      | nil => cases closed <;> simp_all [Record.inOrder]
      | cons node rest =>
          simp only [Record.inOrder, Except.bind_eq_ok_iff] at ordered
          obtain ⟨_, _, later, readRest, _⟩ := ordered
          exact ih readRest

namespace Caller

variable {context : String} {caller : Caller} {node : Node}

/-- A caller is read from a container that ends. -/
theorem isWhole_of_read {reading : Reading} (read : reader reading node = .ok caller) :
    node.IsWhole := by
  obtain ⟨inner, values, -, -, form⟩ := Record.reader_ok read
  rcases form with ⟨entries, rfl, -⟩ | ⟨nodes, closed, rfl, ordered⟩
  · exact rfl
  · exact Record.closed_of_inOrder ordered

theorem exists_scan_of_ofText (decoded : ofText context = .ok caller)
    (notBlank : allBlank context = false) :
    ∃ node, Scanner.scan (Symbol.ofString context) = ⟨node, true⟩ ∧
      reader (.text 0) node = .ok caller := by
  rw [ofText, notBlank] at decoded
  simp only [Bool.false_eq_true, if_false, Reader.decodeText, Reader.decode, Except.bind_eq_ok_iff]
    at decoded
  obtain ⟨value, read, concluded⟩ := decoded
  generalize Scanner.scan (Symbol.ofString context) = result at read concluded
  obtain ⟨node, clean⟩ := result
  cases clean with
  | false => cases concluded
  | true =>
      cases concluded
      exact ⟨node, rfl, read⟩

end Caller

namespace QueryRequest

variable {context : String} {caller : Caller}

theorem reader_line (naming : Naming) {node : Node}
    (read : Caller.reader (.text 1) node = .ok caller) :
    reader (.text 0) (.object ((some "context", node) :: naming.entries).reverse true) =
      .ok ⟨naming.version?, caller⟩ := by
  rw [reader, Record.reader_object_iff (by decide)]
  refine ⟨.text 1, (naming.version?, caller, ()), rfl, ?_, ?_, rfl⟩
  · cases naming with
    | named version => exact ⟨.written rfl, .written read, trivial⟩
    | null => exact ⟨.written rfl, .written read, trivial⟩
    | leftOut => exact ⟨.leftOut rfl, .written read, trivial⟩
  · -- No entry is left over: each has the name of a field.
    cases naming <;>
      simp [Record.Passable, Naming.entries, Field.isEntry, Field.isNamed, Field.optional,
        Field.defaulted]

theorem ofLine_line (naming : Naming) (notBlank : allBlank context = false)
    (decoded : Caller.ofText context = .ok caller)
    (shallow : (Scanner.scan (Symbol.ofString context)).node.height < Reading.depthLimit) :
    ofLine (naming.line context) = .ok ⟨naming.version?, caller⟩ := by
  obtain ⟨node, scanned, read⟩ := Caller.exists_scan_of_ofText decoded notBlank
  have room : 1 + node.height ≤ Reading.depthLimit := by
    rw [scanned] at shallow
    exact (Nat.add_comm 1 _).trans_le shallow
  have deeper : Caller.reader (.text 1) node = .ok caller := Caller.reader_movable read (.text room)
  have line := Scanner.scan_line naming scanned (Caller.isWhole_of_read read)
  have read := reader_line naming deeper
  simp only [ofLine, Reader.decodeText, Reader.decode, line, read, bind, Except.bind, if_true]

end QueryRequest

theorem Script.result_bind {α β : Type} (disk : String → Disk) (input : ByteArray)
    (script : Script α) (next : α → Script β) :
    (script >>= next).result disk input = (next (script.result disk input)).result disk input := by
  induction script with
  | finished result => rfl
  | looking path resume ih => exact ih (disk path)
  | reading resume ih => exact ih input

namespace CommandLine

/-- The text that the command for a single query has its caller from. -/
def contextText (disk : String → Disk) (input : ByteArray) : Option String → Option String
  | some path => textOfDisk? (disk path)
  | none => textOfBytes? input.toList

variable {disk : String → Disk} {input : ByteArray} {place : Option String} {context : String}
  {caller : Caller} {settings : Settings} {snapshot : Snapshot}

theorem result_query (version : Option String)
    (given : contextText disk input place = some context)
    (decoded : Caller.ofText context = .ok caller)
    (isLoaded : loaded settings (disk settings.storage.path) = some snapshot) :
    (query settings version place).result disk input =
      match snapshot.view (version.getD settings.content.defaultVersion) caller with
      | .ok view => .printed view.toJson.indentedText
      | .error _ => .failure := by
  have found : (Script.look settings.storage.path).result disk input =
      disk settings.storage.path := rfl
  unfold query
  cases place with
  | some path =>
      have text : (textOfDisk? <$> Script.look path).result disk input = some context := given
      simp only [Script.result_bind, text, Option.map_some, decoded, found, isLoaded]
      cases snapshot.view (version.getD settings.content.defaultVersion) caller <;> rfl
  | none =>
      have text : ((fun bytes => textOfBytes? bytes.toList) <$> Script.input).result disk input =
          some context := given
      simp only [Script.result_bind, text, Option.map_some, decoded, found, isLoaded]
      cases snapshot.view (version.getD settings.content.defaultVersion) caller <;> rfl

end CommandLine

/-- How the command for a single query tells of an answer. -/
def Reply.outcome : Reply → Outcome
  | .content view => .printed view.toJson.indentedText
  | _ => .failure

namespace Snapshot

variable {context : String} {caller : Caller}

theorem reply_line (snapshot : Snapshot) (defaultVersion : String) (naming : Naming)
    (notBlank : allBlank context = false) (decoded : Caller.ofText context = .ok caller)
    (shallow : (Scanner.scan (Symbol.ofString context)).node.height < Reading.depthLimit) :
    snapshot.reply defaultVersion (naming.line context) =
      match snapshot.view (naming.version?.getD defaultVersion) caller with
      | .ok view => .content view
      | .error cause => .refused cause := by
  rw [reply, QueryRequest.ofLine_line naming notBlank decoded shallow]
  rfl

theorem eq_of_view_error {snapshot : Snapshot} {version : String} {cause : QueryError}
    (failed : snapshot.view version caller = .error cause) : cause = .unknownVersion version := by
  rw [view, tree] at failed
  cases found : snapshot.catalog.get? version with
  | none =>
      rw [found] at failed
      exact (Except.error.inj failed).symm
  | some content =>
      rw [found] at failed
      cases failed

/-- The reply to a line tells the same of a caller as a query on the text of the caller: the same
content, or that the version is not there.  A line that leaves the version out is one that names
the default version. -/
theorem reply_line_agrees (snapshot : Snapshot) (defaultVersion : String)
    (notBlank : allBlank context = false) (decoded : Caller.ofText context = .ok caller)
    (shallow : (Scanner.scan (Symbol.ofString context)).node.height ≤ 126) :
    (∀ version,
      (∀ view, snapshot.reply defaultVersion ((Naming.named version).line context) =
          .content view ↔ snapshot.view version caller = .ok view) ∧
      ∀ cause, snapshot.view version caller = .error cause →
        snapshot.reply defaultVersion ((Naming.named version).line context) = .refused cause ∧
        cause.message = "data version not found: " ++ version) ∧
    (∀ naming : Naming, naming.version? = none →
      snapshot.reply defaultVersion (naming.line context) =
        snapshot.reply defaultVersion ((Naming.named defaultVersion).line context)) ∧
    ∀ (naming : Naming) (settings : Settings) (disk : String → Disk) (input : ByteArray)
      (place : Option String), settings.content.defaultVersion = defaultVersion →
      CommandLine.contextText disk input place = some context →
      CommandLine.loaded settings (disk settings.storage.path) = some snapshot →
      (CommandLine.query settings naming.version? place).result disk input =
        (snapshot.reply defaultVersion (naming.line context)).outcome := by
  have replied (naming : Naming) := reply_line snapshot defaultVersion naming notBlank decoded
    (Nat.lt_succ_of_le shallow)
  refine ⟨fun version => ⟨fun view => ?_, fun cause failed => ?_⟩, fun naming unnamed => ?_, ?_⟩
  · rw [replied (.named version), Naming.version?, Option.getD_some]
    cases snapshot.view version caller <;> simp
  · rw [replied (.named version), Naming.version?, Option.getD_some, failed,
      eq_of_view_error failed]
    exact ⟨rfl, rfl⟩
  · rw [replied, replied, unnamed]
    rfl
  · rintro naming settings disk input place rfl given isLoaded
    rw [CommandLine.result_query naming.version? given decoded isLoaded, replied]
    cases snapshot.view (naming.version?.getD settings.content.defaultVersion) caller <;> rfl

/-- Content that only callers with one role see. -/
def restricted : Snapshot :=
  ⟨1, SortedMap.empty.insert "1"
    ⟨[⟨1, "home", [⟨1, "news", 0, [⟨1, ⟨1, .roles⟩, .list [.text "a"]⟩]⟩]⟩]⟩⟩

/-- A caller under an older name, with a record in its array form and a field nobody knows. -/
def aliasedText : String :=
  "\x7b\"user\":\x7b\"roles\":[\"a\"]\x7d,\"platform\":[\"ios\"],\"x\":[1]\x7d"

def aliasedCaller : Caller := ⟨some ⟨none, 0, .ofList ["a"]⟩, none, none, some ⟨some "ios"⟩⟩

set_option maxRecDepth 4000 in
theorem scan_aliasedText : Scanner.scan (Symbol.ofString aliasedText) =
    ⟨.object [(some "user", .object [(some "roles", .array [.string "a"] true)] true),
      (some "platform", .array [.string "ios"] true),
      (some "x", .array [.whole 1] true)] true, true⟩ := by
  cbv

theorem aliasedText_replied : allBlank aliasedText = false ∧
    Caller.ofText aliasedText = .ok aliasedCaller ∧
    (Scanner.scan (Symbol.ofString aliasedText)).node.height ≤ 126 ∧
    restricted.reply "2" ((Naming.named "1").line aliasedText) =
      .content ⟨[("home", ["news"])]⟩ ∧
    restricted.reply "2" (Naming.leftOut.line aliasedText) = .refused (.unknownVersion "2") := by
  have notBlank : allBlank aliasedText = false := by decide +kernel
  have decoded : Caller.ofText aliasedText = .ok aliasedCaller := by decide +kernel
  have shallow : (Scanner.scan (Symbol.ofString aliasedText)).node.height ≤ 126 := by
    rw [scan_aliasedText]
    decide
  obtain ⟨answers, leavesOut, -⟩ := reply_line_agrees restricted "2" notBlank decoded shallow
  refine ⟨notBlank, decoded, shallow, ((answers "1").1 _).mpr (by decide +kernel), ?_⟩
  rw [leavesOut .leftOut rfl]
  exact ((answers "2").2 _ (by decide +kernel)).1

end Snapshot

end Audience
