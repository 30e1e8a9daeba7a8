import Audience.Json.Node
import Audience.Text.Symbol

namespace Audience

/-! Scanning JSON text.

The scanner takes one symbol at a time and keeps the containers that are still open on a stack, so
scanning a text in two parts is scanning the whole.  At the first fault it closes the value as far
as it was read and looks at nothing that follows.
-/

namespace Scanner

/-- A piece of a quoted string. -/
inductive Piece where
  | char (c : Char)
  /-- A 16-bit unit given by four hexadecimal digits. -/
  | unit (code : Nat)
  /-- Bytes that are no character. -/
  | garbled
deriving Repr

def isHighSurrogate (code : Nat) : Bool :=
  decide (0xD800 ≤ code) && decide (code < 0xDC00)

def isLowSurrogate (code : Nat) : Bool :=
  decide (0xDC00 ≤ code) && decide (code < 0xE000)

/-- The characters of a string; nothing when a surrogate has no partner or bytes are no text. -/
def resolve : List Piece → Option (List Char)
  | [] => some []
  | .char c :: rest => (resolve rest).map (c :: ·)
  | .garbled :: _ => none
  | .unit high :: .unit low :: rest =>
      if isHighSurrogate high then
        if isLowSurrogate low then
          (resolve rest).map
            (Char.ofNat (0x10000 + (high - 0xD800) * 0x400 + (low - 0xDC00)) :: ·)
        else none
      else if isLowSurrogate high then none
      else (resolve (.unit low :: rest)).map (Char.ofNat high :: ·)
  | .unit code :: rest =>
      if isHighSurrogate code || isLowSurrogate code then none
      else (resolve rest).map (Char.ofNat code :: ·)

/-- Where in an escape sequence a string is. -/
inductive Escape where
  | none
  | backslash
  | hex (digits : Nat) (code : Nat)
deriving Repr

/-- A string being scanned; its pieces stand last first. -/
structure Quoted where
  pieces : List Piece
  escape : Escape
deriving Repr

def Quoted.empty : Quoted := ⟨[], .none⟩

def hexValue? (c : Char) : Option Nat :=
  if '0' ≤ c ∧ c ≤ '9' then some (c.toNat - '0'.toNat)
  else if 'a' ≤ c ∧ c ≤ 'f' then some (c.toNat - 'a'.toNat + 10)
  else if 'A' ≤ c ∧ c ≤ 'F' then some (c.toNat - 'A'.toNat + 10)
  else none

/-- The character that a letter after a backslash stands for. -/
def shortEscape? (c : Char) : Option Char :=
  match c with
  | '"' => some '"'
  | '\\' => some '\\'
  | '/' => some '/'
  | 'b' => some '\x08'
  | 'f' => some '\x0c'
  | 'n' => some '\n'
  | 'r' => some '\r'
  | 't' => some '\t'
  | _ => none

/-- What a symbol does to a string or numeral that is being scanned. -/
inductive Progress (α : Type) where
  | more (part : α)
  | complete
  | faulty

def Quoted.next (part : Quoted) (symbol : Symbol) : Progress Quoted :=
  match part.escape, symbol with
  | .none, none => .more { part with pieces := .garbled :: part.pieces }
  | .none, some '"' => .complete
  | .none, some '\\' => .more { part with escape := .backslash }
  | .none, some c =>
      if c.toNat < 0x20 then .faulty else .more { part with pieces := .char c :: part.pieces }
  | .backslash, some 'u' => .more { part with escape := .hex 0 0 }
  | .backslash, some c =>
      match shortEscape? c with
      | some stood => .more ⟨.char stood :: part.pieces, .none⟩
      | none => .faulty
  | .hex digits code, some c =>
      match hexValue? c with
      | some digit =>
          if digits = 3 then .more ⟨.unit (code * 16 + digit) :: part.pieces, .none⟩
          else .more { part with escape := .hex (digits + 1) (code * 16 + digit) }
      | none => .faulty
  | _, none => .faulty

def Quoted.text? (part : Quoted) : Option String :=
  (resolve part.pieces.reverse).map String.ofList

/-- The part of a numeral that was scanned last. -/
inductive NumeralPhase where
  | minus
  | leadingZero
  | whole
  | point
  | fraction
  | mark
  | markSign
  | exponent
deriving Repr, DecidableEq

/-- A numeral being scanned; its digits stand last first. -/
structure OpenNumeral where
  phase : NumeralPhase
  negative : Bool
  whole : List Nat
  fraction : Option (List Nat)
  exponentNegative : Bool
  exponent : Option (List Nat)
deriving Repr

namespace OpenNumeral

def minus : OpenNumeral := ⟨.minus, true, [], none, false, none⟩

def digitPhase (digit : Nat) : NumeralPhase :=
  if digit = 0 then .leadingZero else .whole

def ofDigit (digit : Nat) : OpenNumeral := ⟨digitPhase digit, false, [digit], none, false, none⟩

/-- Whether a numeral may end here. -/
def mayEnd (part : OpenNumeral) : Bool :=
  part.phase = .leadingZero || part.phase = .whole || part.phase = .fraction ||
    part.phase = .exponent

def onDigit (part : OpenNumeral) (digit : Nat) : Progress OpenNumeral :=
  match part.phase with
  | .minus => .more { part with phase := digitPhase digit, whole := [digit] }
  | .leadingZero => .faulty
  | .whole => .more { part with whole := digit :: part.whole }
  | .point | .fraction =>
      .more { part with phase := .fraction, fraction := some (digit :: part.fraction.getD []) }
  | .mark | .markSign | .exponent =>
      .more { part with phase := .exponent, exponent := some (digit :: part.exponent.getD []) }

def onOther (part : OpenNumeral) (symbol : Symbol) : Progress OpenNumeral :=
  match part.phase, symbol with
  | .leadingZero, some '.' | .whole, some '.' => .more { part with phase := .point }
  | .leadingZero, some 'e' | .whole, some 'e' | .fraction, some 'e'
  | .leadingZero, some 'E' | .whole, some 'E' | .fraction, some 'E' =>
      .more { part with phase := .mark }
  | .mark, some '+' => .more { part with phase := .markSign }
  | .mark, some '-' => .more { part with phase := .markSign, exponentNegative := true }
  | _, _ => if part.mayEnd then .complete else .faulty

def next (part : OpenNumeral) (symbol : Symbol) : Progress OpenNumeral :=
  match symbol.bind Digits.ofChar? with
  | some digit => part.onDigit digit
  | none => part.onOther symbol

def numeral (part : OpenNumeral) : Numeral :=
  { negative := part.negative
    whole := part.whole.reverse
    fraction := part.fraction.map List.reverse
    exponent := part.exponent.map fun digits =>
      let size : Int := Digits.value digits.reverse
      if part.exponentNegative then -size else size }

end OpenNumeral

/-- A container that is still open; what it holds stands last first. -/
inductive Frame where
  | array (items : List Node)
  | object (fields : List (Option String × Node))
  /-- An object whose field with this key has no value yet. -/
  | member (fields : List (Option String × Node)) (key : Option String)
deriving Repr

/-- What is scanned next. -/
inductive Mode where
  | value
  | firstItem
  | firstKey
  | key
  | colon
  | after
  | keyText (part : Quoted)
  | valueText (part : Quoted)
  | numeral (part : OpenNumeral)
  | word (rest : List Char) (value : Node)
deriving Repr

inductive State where
  | reading (frames : List Frame) (mode : Mode)
  /-- A whole value has been scanned. -/
  | done (node : Node)
  /-- A fault has been met; the value bears it, or follows it when `within` is false. -/
  | stopped (node : Node) (within : Bool)
deriving Repr

/-- The container as far as it was scanned. -/
def Frame.unclosed : Frame → Node
  | .array items => .array items.reverse false
  | .object fields => .object fields.reverse false
  | .member fields key => .object ((key, .fault) :: fields).reverse false

/-- Puts an unfinished value into the containers around it. -/
def enclose : List Frame → Node → Node
  | [], node => node
  | .array items :: rest, node => enclose rest (.array (node :: items).reverse false)
  | .object fields :: rest, _ => enclose rest (.object fields.reverse false)
  | .member fields key :: rest, node =>
      enclose rest (.object ((key, node) :: fields).reverse false)

/-- Stops where a value should stand. -/
def faultAtValue (frames : List Frame) : State :=
  .stopped (enclose frames .fault) true

/-- Stops inside the innermost container, between its values. -/
def faultInContainer : List Frame → State
  | [] => .stopped .fault true
  | frame :: rest => .stopped (enclose rest frame.unclosed) true

/-- Hands a finished value to the innermost container. -/
def finish (frames : List Frame) (node : Node) : State :=
  match frames with
  | [] => .done node
  | .array items :: rest => .reading (.array (node :: items) :: rest) .after
  | .object fields :: rest => .reading (.object fields :: rest) .after
  | .member fields key :: rest => .reading (.object ((key, node) :: fields) :: rest) .after

def isSpace (c : Char) : Bool :=
  c = ' ' || c = '\t' || c = '\n' || c = '\r'

/-- The first symbol of a value. -/
def beginValue (frames : List Frame) (symbol : Symbol) : State :=
  match symbol with
  | some '\x7b' => .reading (.object [] :: frames) .firstKey
  | some '[' => .reading (.array [] :: frames) .firstItem
  | some '"' => .reading frames (.valueText .empty)
  | some '-' => .reading frames (.numeral .minus)
  | some 'n' => .reading frames (.word "ull".toList .null)
  | some 't' => .reading frames (.word "rue".toList (.bool true))
  | some 'f' => .reading frames (.word "alse".toList (.bool false))
  | some c =>
      match Digits.ofChar? c with
      | some digit => .reading frames (.numeral (.ofDigit digit))
      | none => faultAtValue frames
  | none => faultAtValue frames

/-- A symbol between the values of the innermost container. -/
def afterValue (frames : List Frame) (symbol : Symbol) : State :=
  match frames, symbol with
  | .array items :: rest, some ',' => .reading (.array items :: rest) .value
  | .array items :: rest, some ']' => finish rest (.array items.reverse true)
  | .object fields :: rest, some ',' => .reading (.object fields :: rest) .key
  | .object fields :: rest, some '\x7d' => finish rest (.object fields.reverse true)
  | _, _ => faultInContainer frames

def skipsSpace : Mode → Bool
  | .value | .firstItem | .firstKey | .key | .colon | .after => true
  | _ => false

/-- A symbol that is no white space between two tokens. -/
def readMode (frames : List Frame) (symbol : Symbol) : Mode → State
  | .value => beginValue frames symbol
  | .firstItem =>
      match frames, symbol with
      | .array items :: rest, some ']' => finish rest (.array items.reverse true)
      | _, _ => beginValue frames symbol
  | .firstKey =>
      match frames, symbol with
      | .object fields :: rest, some '\x7d' => finish rest (.object fields.reverse true)
      | _, some '"' => .reading frames (.keyText .empty)
      | _, _ => faultInContainer frames
  | .key =>
      match symbol with
      | some '"' => .reading frames (.keyText .empty)
      | _ => faultInContainer frames
  | .colon =>
      match symbol with
      | some ':' => .reading frames .value
      | _ => faultAtValue frames
  | .after => afterValue frames symbol
  | .keyText part =>
      match part.next symbol with
      | .more part => .reading frames (.keyText part)
      | .complete =>
          match frames with
          | .object fields :: rest => .reading (.member fields part.text? :: rest) .colon
          | _ => faultInContainer frames
      | .faulty => faultInContainer frames
  | .valueText part =>
      match part.next symbol with
      | .more part => .reading frames (.valueText part)
      | .complete =>
          match part.text? with
          | some text => finish frames (.string text)
          | none => finish frames .unreadable
      | .faulty => faultAtValue frames
  | .numeral _ => faultAtValue frames
  | .word rest value =>
      match rest, symbol with
      | [letter], some c => if c = letter then finish frames value else faultAtValue frames
      | letter :: others, some c =>
          if c = letter then .reading frames (.word others value) else faultAtValue frames
      | _, _ => faultAtValue frames

def isSpaceSymbol (symbol : Symbol) : Bool :=
  symbol.any isSpace

/-- Scans a symbol where no numeral is being read. -/
def stepToken (state : State) (symbol : Symbol) : State :=
  match state with
  | .reading frames mode =>
      if skipsSpace mode && isSpaceSymbol symbol then .reading frames mode
      else readMode frames symbol mode
  | .done node => if isSpaceSymbol symbol then .done node else .stopped node false
  | .stopped node within => .stopped node within

/-- Scans a symbol.  A numeral has no last symbol of its own: it ends in front of the first symbol
that does not continue it, and that symbol is scanned after it. -/
def step (state : State) (symbol : Symbol) : State :=
  match state with
  | .reading frames (.numeral part) =>
      match part.next symbol with
      | .more part => .reading frames (.numeral part)
      | .complete => stepToken (finish frames (.ofNumeral part.numeral)) symbol
      | .faulty => faultAtValue frames
  | state => stepToken state symbol

/-- A scanned text: its value, and whether nothing but white space stands behind it. -/
structure Result where
  node : Node
  clean : Bool
deriving Repr

/-- The end of the text. -/
def State.conclude : State → Result
  | .done node => ⟨node, true⟩
  | .stopped node within => ⟨node, within⟩
  | .reading frames (.numeral part) =>
      if part.mayEnd then
        match finish frames (.ofNumeral part.numeral) with
        | .done node => ⟨node, true⟩
        | .reading frames _ =>
            match frames with
            | [] => ⟨.fault, true⟩
            | frame :: rest => ⟨enclose rest frame.unclosed, true⟩
        | .stopped node within => ⟨node, within⟩
      else ⟨enclose frames .fault, true⟩
  | .reading frames mode =>
      match mode, frames with
      | .after, frame :: rest | .firstKey, frame :: rest | .key, frame :: rest
      | .keyText _, frame :: rest | .firstItem, frame :: rest =>
          ⟨enclose rest frame.unclosed, true⟩
      | _, _ => ⟨enclose frames .fault, true⟩

def start : State := .reading [] .value

def scan (symbols : List Symbol) : Result :=
  (symbols.foldl step start).conclude

end Scanner

end Audience
