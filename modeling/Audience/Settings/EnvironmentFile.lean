import Audience.Settings.Environment
import Audience.Text.Alphanumeric

namespace Audience

/-! Files of variable assignments.

A variable that holds a text keeps it, and the first line that is no assignment ends the file.  The
name of a variable that a value refers to is written with letters and numbers, or in braces.
-/

namespace EnvironmentFile

/-- Where in the quoting of a value the end of a line finds itself. -/
inductive Quoting where
  | outside
  /-- Behind a blank, where a comment may begin. -/
  | blank
  | escape
  | strong
  | strongEscape
  | weak
  | weakEscape
deriving Repr, DecidableEq

namespace Quoting

def opened (c : Char) : Quoting :=
  if c = '\\' then escape else if c = '"' then weak else if c = '\'' then strong else outside

def next (quoting : Quoting) (c : Char) : Quoting :=
  match quoting with
  | outside => if isBlank c && c != '\n' && c != '\r' then blank else opened c
  | blank => opened c
  | escape => outside
  | weak => if c = '\\' then weakEscape else if c = '"' then outside else weak
  | weakEscape => weak
  | strong => if c = '\\' then strongEscape else if c = '\'' then outside else strong
  | strongEscape => strong

end Quoting

/-- The quoting at the end of a line, and what stands before a comment in it. -/
def lineEnd (quoting : Quoting) : List Char → Quoting × Option (List Char)
  | [] => (quoting, none)
  | c :: rest =>
      if quoting = .blank ∧ c = '#' then (quoting, some [])
      else
        let (final, kept) := lineEnd (quoting.next c) rest
        (final, kept.map (c :: ·))

/-- Lines with their ends. -/
def fullLines : List Char → List (List Char)
  | [] => []
  | c :: rest =>
      if c = '\n' then [c] :: fullLines rest
      else match fullLines rest with
        | [] => [[c]]
        | line :: lines => (c :: line) :: lines

def dropLineEnd (line : List Char) : List Char :=
  if line.getLast? = some '\n' then
    let body := line.dropLast
    if body.getLast? = some '\r' then body.dropLast else body
  else line

/-- Joins lines for as long as a quote is open.  Nothing stands for an open quote at the end of the
file. -/
def joinLines (open? : Option (Quoting × List Char)) :
    List (List Char) → List (Option (List Char))
  | [] => if open?.isSome then [none] else []
  | line :: rest =>
      let (quoting, before) := open?.getD (.outside, [])
      let joined := before ++ line
      if (joined.dropWhile isBlank).head? = some '#' then joinLines none rest
      else match lineEnd quoting line with
        | (_, some kept) => some (before ++ kept) :: joinLines none rest
        | (.outside, none) => some (dropLineEnd joined) :: joinLines none rest
        | (final, none) => joinLines (some (final, joined)) rest

/-- How the next character of a value is taken. -/
inductive Mode where
  | plain
  | escaped
  | strong
  /-- In the name of a variable, whose characters stand last first. -/
  | name (braced : Bool) (chars : List Char)
  /-- Behind the value, where only a comment may follow. -/
  | behind

/-- What a name that stands in a value, last character first, refers to. -/
def referred (environment : Environment) (chars : List Char) : List Char :=
  (environment.find? chars.reverse).getD []

/-- The value that is written; nothing if it is badly written. -/
def value (environment : Environment) (weak : Bool) (mode : Mode) :
    List Char → Option (List Char)
  | [] =>
      match mode with
      | .strong | .name true _ => none
      | .name false chars => if weak then none else some (referred environment chars)
      | _ => if weak then none else some []
  | c :: rest =>
      match mode with
      | .behind =>
          if c = ' ' || c = '\t' then value environment weak .behind rest
          else if c = '#' then some []
          else none
      | .escaped =>
          if c = '\\' || c = '\'' || c = '"' || c = '$' || c = ' ' then
            (value environment weak .plain rest).map (c :: ·)
          else if c = 'n' then (value environment weak .plain rest).map ('\n' :: ·)
          else none
      | .strong =>
          if c = '\'' then value environment weak .plain rest
          else (value environment weak .strong rest).map (c :: ·)
      | .name true chars =>
          if c = '\x7d' then
            (value environment weak .plain rest).map (referred environment chars ++ ·)
          else value environment weak (.name true (c :: chars)) rest
      | .name false chars =>
          if isAlphanumeric c then value environment weak (.name false (c :: chars)) rest
          else if c = '\x7b' && chars.isEmpty then value environment weak (.name true []) rest
          else if c = '$' then
            (value environment weak (.name false []) rest).map (referred environment chars ++ ·)
          else
            (value environment weak .plain rest).map
              fun behind => referred environment chars ++ c :: behind
      | .plain =>
          if c = '$' then value environment weak (.name false []) rest
          else if c = '\\' then value environment weak .escaped rest
          else if c = '"' then value environment (!weak) .plain rest
          else if weak then (value environment weak .plain rest).map (c :: ·)
          else if c = '\'' then value environment weak .strong rest
          else if c = ' ' || c = '\t' then value environment weak .behind rest
          else (value environment weak .plain rest).map (c :: ·)

def skipBlanks (text : List Char) : List Char := text.dropWhile isBlank

/-- The key at the front of a line, and the rest behind blanks. -/
def key? (line : List Char) : Option (String × List Char) :=
  let isKeyChar (c : Char) : Bool := c.isAlphanum || c == '_' || c == '.'
  match line with
  | first :: _ =>
      if first.isAlpha || first == '_' then
        let (key, rest) := line.span isKeyChar
        some (String.ofList key, skipBlanks rest)
      else none
  | [] => none

def behindEquals? : List Char → Option (List Char)
  | '=' :: rest => some (skipBlanks rest)
  | _ => none

/-- The key of an assignment and what is written for its value.  A word before the key may say
that it is exported. -/
def sides? (line : List Char) : Option (String × List Char) := do
  let (key, rest) ← key? line
  match behindEquals? rest with
  | some written => some (key, written)
  | none =>
      if key = "export" then
        let (exported, behind) ← key? rest
        some (exported, ← behindEquals? behind)
      else none

/-- What a line is. -/
inductive Line where
  | blank
  | malformed
  | assignment (key : String) (value : List Char)
deriving Repr, DecidableEq

def readLine (environment : Environment) (line : List Char) : Line :=
  let trimmed := skipBlanks (line.reverse.dropWhile isBlank).reverse
  if trimmed.isEmpty || trimmed.head? == some '#' then .blank
  else
    let assigned := do
      let (key, written) ← sides? trimmed
      let chars ←
        if written.head? == some '#' then some [] else value environment false .plain written
      some (key, chars)
    match assigned with
    | some (key, chars) => .assignment key chars
    | none => .malformed

/-- Adds the assignments of lines up to the first that is none.  There is no environment with a
variable that holds a null character. -/
def assignAll (environment : Environment) : List (Option (List Char)) → Option Environment
  | [] => some environment
  | none :: _ => some environment
  | some line :: rest =>
      match readLine environment line with
      | .blank => assignAll environment rest
      | .malformed => some environment
      | .assignment key chars =>
          if (environment.held? key).isSome then assignAll environment rest
          else if chars.contains '\x00' then none
          else assignAll (environment.insert key (bytesOfText (String.ofList chars))) rest

/-- The environment with the assignments of a file, if there can be one. -/
def load (environment : Environment) (text : String) : Option Environment :=
  let chars := match text.toList with
    | '\ufeff' :: rest => rest
    | chars => chars
  assignAll environment (joinLines none (fullLines chars))

end EnvironmentFile

end Audience
