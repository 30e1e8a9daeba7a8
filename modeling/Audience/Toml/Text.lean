import Audience.Toml.Basic
import Audience.Json.Scanner

namespace Audience

namespace Toml

/-! Quoted text in its four forms, and keys. -/

/-- A character that may stand in text and comments: no control character but the tab. -/
def isPlain (c : Char) : Bool :=
  c == '\t' || (decide (0x20 ≤ c.toNat) && c.toNat != 0x7F)

/-- The character with a code given in hexadecimal digits. -/
def charOfHex? (digits : List Char) : Option Char := do
  let values ← digits.mapM Scanner.hexValue?
  let code := values.foldl (fun total value => total * 16 + value) 0
  if code.isValidChar then some (Char.ofNat code) else none

/-- The character that a letter after a backslash stands for. -/
def shortEscape? (c : Char) : Option Char :=
  match c with
  | 'b' => some '\x08'
  | 't' => some '\t'
  | 'n' => some '\n'
  | 'f' => some '\x0c'
  | 'r' => some '\r'
  | '"' => some '"'
  | '\\' => some '\\'
  | _ => none

/-- The character that is meant by what follows a backslash, and the rest. -/
def escaped? : List Char → Option (Char × List Char)
  | 'u' :: a :: b :: c :: d :: rest => (charOfHex? [a, b, c, d]).map (·, rest)
  | 'U' :: a :: b :: c :: d :: e :: f :: g :: h :: rest =>
      (charOfHex? [a, b, c, d, e, f, g, h]).map (·, rest)
  | letter :: rest => (shortEscape? letter).map (·, rest)
  | [] => none

theorem length_of_escaped? {text rest : List Char} {c : Char}
    (escape : escaped? text = some (c, rest)) : rest.length ≤ text.length := by
  unfold escaped? at escape
  split at escape
  · obtain ⟨_, _, same⟩ := Option.map_eq_some_iff.mp escape
    cases same
    simp only [List.length_cons]
    omega
  · obtain ⟨_, _, same⟩ := Option.map_eq_some_iff.mp escape
    cases same
    simp only [List.length_cons]
    omega
  · obtain ⟨_, _, same⟩ := Option.map_eq_some_iff.mp escape
    cases same
    simp only [List.length_cons]
    omega
  · contradiction

/-- Passes over blanks and line ends. -/
def dropSpace : List Char → List Char
  | ' ' :: rest | '\t' :: rest | '\n' :: rest | '\r' :: '\n' :: rest => dropSpace rest
  | text => text

theorem length_dropSpace (text : List Char) : (dropSpace text).length ≤ text.length := by
  fun_induction dropSpace text <;> grind

/-- What follows the white space behind a backslash that ends a line. -/
def folded? (text : List Char) : Option (List Char) :=
  match text.dropWhile fun c => c == ' ' || c == '\t' with
  | '\n' :: rest => some (dropSpace rest)
  | '\r' :: '\n' :: rest => some (dropSpace rest)
  | _ => none

theorem length_of_folded? {text rest : List Char} (fold : folded? text = some rest) :
    rest.length ≤ text.length := by
  have kept : (text.dropWhile fun c => c == ' ' || c == '\t').length ≤ text.length :=
    (List.dropWhile_sublist _).length_le
  unfold folded? at fold
  split at fold
  · next after found =>
      cases fold
      have := length_dropSpace after
      rw [found, List.length_cons] at kept
      omega
  · next after found =>
      cases fold
      have := length_dropSpace after
      rw [found, List.length_cons, List.length_cons] at kept
      omega
  · contradiction

/-- Text and what follows it. -/
abbrev TextAndRest := List Char × List Char

def TextAndRest.cons (c : Char) (scanned : TextAndRest) : TextAndRest :=
  (c :: scanned.1, scanned.2)

/-- The text up to the closing quote, with escapes. -/
def basicLine (text : List Char) : Option TextAndRest :=
  match text with
  | [] => none
  | '"' :: rest => some ([], rest)
  | '\\' :: behind =>
      match _escape : escaped? behind with
      | some (stood, rest) => (basicLine rest).map (.cons stood)
      | none => none
  | c :: rest => if isPlain c then (basicLine rest).map (.cons c) else none
termination_by text.length
decreasing_by
  · have := length_of_escaped? _escape
    simp only [List.length_cons]
    omega
  · simp

/-- The text up to three closing quotes, with escapes, over many lines.  One or two quotes more
belong to the text. -/
def basicLines (text : List Char) : Option TextAndRest :=
  match text with
  | [] => none
  | '"' :: '"' :: '"' :: '"' :: '"' :: rest => some (['"', '"'], rest)
  | '"' :: '"' :: '"' :: '"' :: rest => some (['"'], rest)
  | '"' :: '"' :: '"' :: rest => some ([], rest)
  | '\\' :: behind =>
      match _escape : escaped? behind with
      | some (stood, rest) => (basicLines rest).map (.cons stood)
      | none =>
          match _fold : folded? behind with
          | some rest => basicLines rest
          | none => none
  | '\r' :: '\n' :: rest => (basicLines rest).map (.cons '\n')
  | c :: rest => if isPlain c || c == '\n' then (basicLines rest).map (.cons c) else none
termination_by text.length
decreasing_by
  · have := length_of_escaped? _escape
    simp only [List.length_cons]
    omega
  · have := length_of_folded? _fold
    simp only [List.length_cons]
    omega
  · simp only [List.length_cons]
    omega
  · simp

/-- The text up to the closing apostrophe, as it stands. -/
def literalLine : List Char → Option TextAndRest
  | '\'' :: rest => some ([], rest)
  | c :: rest => if isPlain c then (literalLine rest).map (.cons c) else none
  | [] => none

/-- The text up to three closing apostrophes, as it stands, over many lines. -/
def literalLines : List Char → Option TextAndRest
  | '\'' :: '\'' :: '\'' :: '\'' :: '\'' :: rest => some (['\'', '\''], rest)
  | '\'' :: '\'' :: '\'' :: '\'' :: rest => some (['\''], rest)
  | '\'' :: '\'' :: '\'' :: rest => some ([], rest)
  | '\r' :: '\n' :: rest => (literalLines rest).map (.cons '\n')
  | c :: rest =>
      if isPlain c || c == '\n' then (literalLines rest).map (.cons c) else none
  | [] => none

/-- Takes off a line end that stands right behind the opening quotes. -/
def dropLineEnd : List Char → List Char
  | '\n' :: rest => rest
  | '\r' :: '\n' :: rest => rest
  | text => text

/-- A text in quotes of any form. -/
def quoted : Scan String := fun text =>
  let scanned := match text with
    | '"' :: '"' :: '"' :: rest => basicLines (dropLineEnd rest)
    | '"' :: rest => basicLine rest
    | '\'' :: '\'' :: '\'' :: rest => literalLines (dropLineEnd rest)
    | '\'' :: rest => literalLine rest
    | _ => none
  scanned.map fun (chars, rest) => (String.ofList chars, rest)

def isBareKeyChar (c : Char) : Bool :=
  c.isAlphanum || c == '-' || c == '_'

/-- One part of a key. -/
def keyPart : Scan String := fun text =>
  let scanned := match text with
    | '"' :: rest => basicLine rest
    | '\'' :: rest => literalLine rest
    | _ =>
        match text.span isBareKeyChar with
        | ([], _) => none
        | bare => some bare
  scanned.map fun (chars, rest) => (String.ofList chars, rest)

/-- Spaces and tabs. -/
def blanks : Scan Unit := fun text =>
  some ((), text.dropWhile fun c => c == ' ' || c == '\t')

/-- A given character. -/
def mark (wanted : Char) : Scan Unit := fun text =>
  match text with
  | c :: rest => if c == wanted then some ((), rest) else none
  | [] => none

def keyPartAndBlanks : Scan String := do
  blanks
  let part ← keyPart
  blanks
  return part

/-- The parts of a key behind the first, each after a dot. -/
def moreKeyParts : Nat → Scan (List String)
  | 0 => fun _ => none
  | limit + 1 => fun text =>
      match text with
      | '.' :: rest => (do
          let part ← keyPartAndBlanks
          let parts ← moreKeyParts limit
          return part :: parts : Scan (List String)) rest
      | _ => some ([], text)

/-- A key has fewer parts than this. -/
def keyLimit : Nat := 80

/-- A key: where it leads to, and its last part. -/
def key : Scan (List String × String) := do
  let first ← keyPartAndBlanks
  let more ← moreKeyParts (keyLimit - 1)
  let parts := first :: more
  return (parts.dropLast, parts.getLastD first)

end Toml

end Audience
