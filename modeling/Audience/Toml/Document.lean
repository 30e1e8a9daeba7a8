import Audience.Toml.Scalar
import Audience.Toml.Table
import Audience.Toml.Text

namespace Audience

namespace Toml

/-! Whole documents. -/

/-- Passes over blanks, line ends and comments. -/
def dropGap (inComment : Bool) : List Char → Option (List Char)
  | [] => some []
  | '\r' :: '\n' :: rest => dropGap false rest
  | c :: rest =>
      if c == '\n' then dropGap false rest
      else if inComment then if isPlain c then dropGap true rest else none
      else if c == ' ' || c == '\t' then dropGap false rest
      else if c == '#' then dropGap true rest
      else some (c :: rest)

def gap : Scan Unit := fun text => (dropGap false text).map ((), ·)

/-- Takes a character if it is the next one. -/
def takes (wanted : Char) : Scan Bool := fun text =>
  match text with
  | c :: rest => if c == wanted then some (true, rest) else some (false, text)
  | [] => some (false, [])

/-- The items of an array, behind its opening bracket or a comma. -/
def arrayItems (value : Scan Value) : Nat → Scan (List Value)
  | 0 => fun _ => none
  | limit + 1 => do
      gap
      if ← takes ']' then return []
      let item ← value
      gap
      if ← takes ',' then
        let rest ← arrayItems value limit
        return item :: rest
      mark ']'
      return [item]

/-- The entries of a table in braces, behind its opening brace or a comma. -/
def inlineEntries (value : Scan Value) : Nat → Entries → Scan Entries
  | 0, _ => fun _ => none
  | limit + 1, entries => do
      let (path, last) ← key
      mark '='
      blanks
      let item ← value
      blanks
      let extended ← (entries.addValue path last item .header : Option Entries)
      if ← takes ',' then inlineEntries value limit extended
      else
        mark '\x7d'
        return extended

/-- A value with fewer than a number of containers around each other. -/
def value : Nat → Scan Value
  | 0 => fun text =>
      match text with
      | '"' :: _ | '\'' :: _ => quoted.map .text text
      | _ => scalar text
  | depth + 1 => fun text =>
      match text with
      | '"' :: _ | '\'' :: _ => quoted.map .text text
      | '[' :: rest => (arrayItems (value depth) text.length).map .array rest
      | '\x7b' :: rest => (do
          blanks
          if ← takes '\x7d' then return .table []
          let entries ← inlineEntries (value depth) text.length []
          return .table (Entries.toValues entries) : Scan Value) rest
      | _ => scalar text

/-- Containers in a value may be nested this deep. -/
def depthLimit : Nat := 79

/-- The end of a statement: a comment or nothing, up to the end of the line. -/
def lineEnd : Scan Unit := fun text =>
  let behind := text.dropWhile fun c => c == ' ' || c == '\t'
  let left := match behind with
    | '#' :: rest => rest.dropWhile isPlain
    | _ => behind
  match left with
  | [] => some ((), [])
  | '\n' :: rest => some ((), rest)
  | '\r' :: '\n' :: rest => some ((), rest)
  | _ => none

/-- The tables so far, and the one that the last header opened. -/
structure Progress where
  root : Entries
  here : List String

def Progress.start : Progress := ⟨[], []⟩

/-- A header or a key with its value. -/
def statement (progress : Progress) : Scan Progress := fun text =>
  match text with
  | '[' :: '[' :: rest => (do
      let (path, last) ← key
      mark ']'
      mark ']'
      lineEnd
      let root ← (progress.root.modifyAt false (fun _ => Entries.openNext last) path .header :
        Option Entries)
      return ⟨root, path ++ [last]⟩ : Scan Progress) rest
  | '[' :: rest => (do
      let (path, last) ← key
      mark ']'
      lineEnd
      let root ← (progress.root.modifyAt false (fun _ => Entries.openTable last) path .header :
        Option Entries)
      return ⟨root, path ++ [last]⟩ : Scan Progress) rest
  | _ => (do
      let (path, last) ← key
      mark '='
      blanks
      let item ← value depthLimit
      lineEnd
      let added := progress.root.modifyAt false (Entries.addValue path last item) progress.here .header
      let root ← (added : Option Entries)
      return { progress with root } : Scan Progress) text

/-- The statements of a document. -/
def statements : Nat → Progress → List Char → Option Entries
  | 0, _, _ => none
  | limit + 1, progress, text => do
      let rest ← dropGap false text
      if rest.isEmpty then some progress.root
      else
        let (next, behind) ← statement progress rest
        statements limit next behind

/-- The table that a document stands for.  A byte order mark may stand before it. -/
def parse (document : String) : Option (List (String × Value)) :=
  let text := match document.toList with
    | '\ufeff' :: rest => rest
    | text => text
  (statements (text.length + 1) .start text).map Entries.toValues

end Toml

end Audience
