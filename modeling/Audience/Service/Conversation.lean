import Audience.Service.Query
import Audience.Text.Blank
import Audience.Text.Lines

namespace Audience

/-! A stream of requests, one on a line, and the replies to it. -/

/-- The replies that were given, and whether all lines were text. -/
structure Conversation where
  replies : List Reply
  readable : Bool
deriving Repr, DecidableEq

namespace Conversation

/-- What is reported about a line that is no text. -/
def unreadableMessage : String := "I/O error: stream did not contain valid UTF-8"

/-- Replies to each line that is not blank, up to the first that is no text. -/
def ofLines (snapshot : Snapshot) (defaultVersion : String) : List (List UInt8) → Conversation
  | [] => ⟨[], true⟩
  | line :: rest =>
      match textOfBytes? line with
      | none => ⟨[], false⟩
      | some text =>
          let later := ofLines snapshot defaultVersion rest
          if allBlank text then later
          else { later with replies := snapshot.reply defaultVersion text :: later.replies }

def ofInput (snapshot : Snapshot) (defaultVersion : String) (input : ByteArray) : Conversation :=
  ofLines snapshot defaultVersion (Lines.split input.toList)

/-- What is returned behind the last reply: how many there were, unless a line was no text. -/
def answered (conversation : Conversation) : Except String Nat :=
  if conversation.readable then .ok conversation.replies.length else .error unreadableMessage

/-- The replies as they are written, each on a line. -/
def output (conversation : Conversation) : String :=
  String.join (conversation.replies.map fun reply => reply.text ++ "\n")

end Conversation

end Audience
