import Audience.Caller.Decode
import Audience.Content.View
import Audience.Reload.Cache

namespace Audience

/-! Questions about the content of a snapshot, and requests for it as lines of text. -/

/-- Why a question has no answer. -/
inductive QueryError where
  | unknownVersion (version : String)
  | notReady
deriving Repr, DecidableEq

def QueryError.message : QueryError → String
  | unknownVersion version => "data version not found: " ++ version
  | notReady => "content not loaded yet"

namespace Snapshot

/-- The content of one data version. -/
def tree (snapshot : Snapshot) (version : String) : Except QueryError ContentTree :=
  match snapshot.catalog.get? version with
  | some tree => .ok tree
  | none => .error (.unknownVersion version)

/-- What a caller sees of one data version. -/
def view (snapshot : Snapshot) (version : String) (caller : Caller) : Except QueryError View :=
  (snapshot.tree version).map fun tree => tree.assemble caller

/-- The rule types in use in one data version. -/
def ruleTypes (snapshot : Snapshot) (version : String) : Except QueryError (List RuleType) :=
  (snapshot.tree version).map ContentTree.ruleTypes

end Snapshot

/-- What somebody wants to know of the content. -/
inductive Question where
  | view (version : String) (caller : Caller)
  | ruleTypes (version : String)
  /-- The content of all data versions. -/
  | everything
  /-- The content of all data versions, if there is some before a time is over. -/
  | readiness
deriving Repr, DecidableEq

inductive Answer where
  | view (view : View)
  | ruleTypes (types : List RuleType)
  | content (snapshot : Snapshot)

namespace Question

/-- Whether somebody goes away when there is no content in time. -/
def isTimed : Question → Bool
  | readiness => true
  | _ => false

def answer (snapshot : Snapshot) : Question → Except QueryError Answer
  | view version caller => (snapshot.view version caller).map .view
  | ruleTypes version => (snapshot.ruleTypes version).map .ruleTypes
  | everything | readiness => .ok (.content snapshot)

end Question

/-- A request for what a caller sees.  Without a version it is for the default version. -/
structure QueryRequest where
  version : Option String
  caller : Caller
deriving Repr, DecidableEq

def QueryRequest.reader : Reader QueryRequest :=
  Record.reader
    [.optional "data_version" .string [], .defaulted "context" Caller.reader .anonymous []]
    fun (version, caller, _) => ⟨version, caller⟩

def QueryRequest.ofLine (line : String) : Except DecodeError QueryRequest :=
  QueryRequest.reader.decodeText line

/-- The answer to a line. -/
inductive Reply where
  | content (view : View)
  | malformed (cause : DecodeError)
  | refused (cause : QueryError)
deriving Repr, DecidableEq

namespace Reply

/-- The reply as it is written.  Behind the words for a malformed line the decoder's own message
would stand; `DecodeError.detail?` stands for it here. -/
def toJson : Reply → Json
  | content view => .object [("ok", view.toJson)]
  | malformed cause =>
      .object [("error", .string ("invalid request: " ++ cause.detail?.getD "syntax"))]
  | refused cause => .object [("error", .string cause.message)]

def text (reply : Reply) : String := reply.toJson.text

end Reply

namespace Snapshot

def answer (snapshot : Snapshot) (defaultVersion : String) (request : QueryRequest) : Reply :=
  match snapshot.view (request.version.getD defaultVersion) request.caller with
  | .ok view => .content view
  | .error cause => .refused cause

/-- The answer to a line. -/
def reply (snapshot : Snapshot) (defaultVersion line : String) : Reply :=
  match QueryRequest.ofLine line with
  | .ok request => snapshot.answer defaultVersion request
  | .error cause => .malformed cause

end Snapshot

end Audience
