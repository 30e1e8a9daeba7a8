import Audience.Number.Reading

namespace Audience

/-! Positions at the end of a message: a line and a column, both in words of 64 bits. -/

namespace Position

def lineMark : List Char := " at line ".toList

def columnMark : List Char := " column ".toList

/-- What stands before the last occurrence of a mark in a text, and what stands behind it. -/
def cutLast? (mark : List Char) : List Char → Option (List Char × List Char)
  | [] => none
  | c :: rest =>
      match cutLast? mark rest with
      | some (before, behind) => some (c :: before, behind)
      | none =>
          if mark.isPrefixOf (c :: rest) then some ([], (c :: rest).drop mark.length) else none

/-- Whether a text is the number of a line, the mark of a column and the number of a column. -/
def isLineAndColumn (text : List Char) : Bool :=
  let (line, rest) := text.span Char.isDigit
  columnMark.isPrefixOf rest && (Numeral.word? line).isSome &&
    (Numeral.word? (rest.drop columnMark.length)).isSome

/-- A message without the position that it ends with. -/
def strip (message : String) : String :=
  match cutLast? lineMark message.toList with
  | some (before, behind) => if isLineAndColumn behind then String.ofList before else message
  | none => message

end Position

end Audience
