import Audience.Text.Symbol

namespace Audience

/-! Lines of bytes, and the texts they encode. -/

namespace Lines

def newline : UInt8 := 0x0A

def carriageReturn : UInt8 := 0x0D

/-- Splits bytes at each newline.  Bytes behind the last newline are a line of their own, unless
there are none. -/
def splitNewlines : List UInt8 → List (List UInt8)
  | [] => []
  | byte :: rest =>
      if byte = newline then [] :: splitNewlines rest
      else match splitNewlines rest with
        | [] => [[byte]]
        | line :: lines => (byte :: line) :: lines

/-- The lines of some bytes, each with a carriage return before its newline taken off.  A line
without a newline keeps it. -/
def split (bytes : List UInt8) : List (List UInt8) :=
  let lines := splitNewlines bytes
  let trim (line : List UInt8) : List UInt8 :=
    if line.getLast? = some carriageReturn then line.dropLast else line
  if bytes.getLast? = some newline then lines.map trim
  else lines.dropLast.map trim ++ lines.getLast?.toList

end Lines

/-- The bytes that encode a text. -/
def bytesOfText (text : String) : List UInt8 := text.toUTF8.data.toList

/-- The text that bytes encode; nothing when they encode none. -/
def textOfBytes? (bytes : List UInt8) : Option String :=
  ((Symbol.ofBytes ⟨bytes.toArray⟩).mapM id).map String.ofList

end Audience
