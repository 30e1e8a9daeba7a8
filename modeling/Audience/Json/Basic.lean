import Audience.Number.Layout

namespace Audience

/-! JSON documents and their text.

The fields of an object keep the order in which they are written, so a document fixes its text.
-/

inductive Json where
  | null
  | bool (value : Bool)
  | whole (value : Int)
  | real (value : Number)
  | string (value : String)
  | array (items : List Json)
  | object (fields : List (String × Json))
deriving Repr

namespace Json

/-- Hexadecimal digit in lower case. -/
def hexChar (digit : Nat) : Char :=
  if digit < 10 then Char.ofNat ('0'.toNat + digit) else Char.ofNat ('a'.toNat + (digit - 10))

/-- A character inside a quoted string.  Only the quote, the backslash and control characters are
escaped, the latter by a short form where there is one. -/
def escapeChar (c : Char) : List Char :=
  if c = '"' then ['\\', '"']
  else if c = '\\' then ['\\', '\\']
  else if c = '\x08' then ['\\', 'b']
  else if c = '\x0c' then ['\\', 'f']
  else if c = '\n' then ['\\', 'n']
  else if c = '\r' then ['\\', 'r']
  else if c = '\t' then ['\\', 't']
  else if c.toNat < 0x20 then
    ['\\', 'u', '0', '0', hexChar (c.toNat / 16), hexChar (c.toNat % 16)]
  else [c]

def quote (text : String) : List Char :=
  '"' :: (text.toList.flatMap escapeChar ++ ['"'])

def realChars (x : Number) : List Char :=
  if x.isFinite then x.chars .ofValues else "null".toList

mutual

/-- The compact text of a document. -/
def chars : Json → List Char
  | null => "null".toList
  | bool true => "true".toList
  | bool false => "false".toList
  | whole value => decimalChars value
  | real value => realChars value
  | string value => quote value
  | array items => '[' :: (itemsChars items ++ [']'])
  | object fields => '\x7b' :: (fieldsChars fields ++ ['\x7d'])

def itemsChars : List Json → List Char
  | [] => []
  | [item] => chars item
  | item :: rest => chars item ++ ',' :: itemsChars rest

def fieldsChars : List (String × Json) → List Char
  | [] => []
  | [(key, value)] => quote key ++ ':' :: chars value
  | (key, value) :: rest => quote key ++ ':' :: (chars value ++ ',' :: fieldsChars rest)

end

/-- The compact text of a document. -/
def text (document : Json) : String :=
  String.ofList document.chars

def newline (depth : Nat) : List Char :=
  '\n' :: List.replicate (2 * depth) ' '

mutual

/-- The indented text of a document `depth` levels deep: two blanks for each level, one item or
field on a line. -/
def indentedChars (depth : Nat) : Json → List Char
  | array [] => ['[', ']']
  | object [] => ['\x7b', '\x7d']
  | array (item :: rest) =>
      '[' :: (newline (depth + 1) ++ indentedChars (depth + 1) item ++
        indentedItems (depth + 1) rest ++ newline depth ++ [']'])
  | object ((key, value) :: rest) =>
      '\x7b' :: (newline (depth + 1) ++ quote key ++ ':' :: ' ' ::
        indentedChars (depth + 1) value ++ indentedFields (depth + 1) rest ++
        newline depth ++ ['\x7d'])
  | document => document.chars

def indentedItems (depth : Nat) : List Json → List Char
  | [] => []
  | item :: rest => ',' :: (newline depth ++ indentedChars depth item ++ indentedItems depth rest)

def indentedFields (depth : Nat) : List (String × Json) → List Char
  | [] => []
  | (key, value) :: rest =>
      ',' :: (newline depth ++ quote key ++ ':' :: ' ' :: indentedChars depth value ++
        indentedFields depth rest)

end

def indentedText (document : Json) : String :=
  String.ofList (document.indentedChars 0)

def strings (values : List String) : Json :=
  array (values.map string)

end Json

end Audience
