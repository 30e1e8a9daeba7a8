import Audience.Json.Decode

namespace Audience

/-! Scanning a text that was written from a document.

A value is scanned in whatever containers are open around it, so each part of a document has one
statement: behind its text the scanner holds its node, and goes on in the containers as they were.
The text as a whole is therefore scanned as the document it was written from.
-/

namespace Digits

theorem ofChar?_toChar {digit : Nat} (decimal : digit < 10) :
    ofChar? (toChar digit) = some digit := by
  have all : ∀ digit < 10, ofChar? (toChar digit) = some digit := by decide
  exact all digit decimal

/-- Only zero is written with a leading zero. -/
theorem exists_ofNat_eq_cons (n : Nat) :
    ∃ first rest, ofNat n = first :: rest ∧ (first = 0 → rest = []) := by
  induction n using Nat.strongRecOn with
  | ind n ih =>
      rw [ofNat]
      split
      · exact ⟨n, [], rfl, fun _ => rfl⟩
      · next large =>
          obtain ⟨first, rest, parts, zero⟩ := ih (n / 10) (by omega)
          refine ⟨first, rest ++ [n % 10], by simp [parts], fun isZero => ?_⟩
          have value := value_ofNat (n / 10)
          rw [parts, isZero, zero isZero] at value
          simp only [Digits.value, List.foldl_cons, List.foldl_nil] at value
          omega

end Digits

namespace Scanner

/-- A piece of a string that stands for one character by itself. -/
inductive Piece.Means : Piece → Char → Prop
  | char (c : Char) : Means (.char c) c
  | unit (c : Char) (control : c.toNat < 0x20) : Means (.unit c.toNat) c

/-- Both places where a string may stand. -/
inductive InText : (Quoted → Mode) → Prop
  | key : InText .keyText
  | value : InText .valueText

/-- Both places where a value may begin. -/
inductive Opens : Mode → Prop
  | value : Opens .value
  | firstItem : Opens .firstItem

/-- Both places where a key may begin. -/
inductive OpensKey : Mode → Prop
  | firstKey : OpensKey .firstKey
  | key : OpensKey .key

/-- A value has been scanned as a node; of a numeral only the end is not yet known. -/
inductive Holds (frames : List Frame) (node : Node) : State → Prop
  | finished : Holds frames node (finish frames node)
  | numeral {part : OpenNumeral} (mayEnd : part.mayEnd = true)
      (value : .ofNumeral part.numeral = node) : Holds frames node (.reading frames (.numeral part))

variable {frames : List Frame} {mode : Mode} {wrap : Quoted → Mode} {part later : Quoted}
  {pieces : List Piece} {c : Char}

theorem resolve_cons {piece : Piece} (means : piece.Means c) (pieces : List Piece) :
    resolve (piece :: pieces) = (resolve pieces).map (c :: ·) := by
  cases means with
  | char => rfl
  | unit control =>
      have notHigh : isHighSurrogate c.toNat = false := by
        simp [isHighSurrogate]
        omega
      have notLow : isLowSurrogate c.toNat = false := by
        simp [isLowSurrogate]
        omega
      cases pieces with
      | nil => simp [resolve, notHigh, notLow, Char.ofNat_toNat]
      | cons next rest => cases next <;> simp [resolve, notHigh, notLow, Char.ofNat_toNat]

theorem step_of_more (inText : InText wrap) {symbol : Symbol}
    (more : part.next symbol = .more later) :
    step (.reading frames (wrap part)) symbol = .reading frames (wrap later) := by
  cases inText <;> simp [step, stepToken, skipsSpace, readMode, more]

theorem scan_shortEscape (inText : InText wrap) {letter : Char}
    (stands : shortEscape? letter = some c) (frames : List Frame) (pieces : List Piece) :
    (['\\', letter].map some).foldl step (.reading frames (wrap ⟨pieces, .none⟩)) =
      .reading frames (wrap ⟨.char c :: pieces, .none⟩) := by
  have opening : (⟨pieces, .none⟩ : Quoted).next (some '\\') = .more ⟨pieces, .backslash⟩ := rfl
  have other : letter ≠ 'u' := by
    rintro rfl
    cases stands
  have closing : (⟨pieces, .backslash⟩ : Quoted).next (some letter) =
      .more ⟨.char c :: pieces, .none⟩ := by
    simp [Quoted.next, stands]
  simp only [List.map_cons, List.map_nil, List.foldl_cons, List.foldl_nil,
    step_of_more inText opening, step_of_more inText closing]

theorem hexValue?_hexChar {digit : Nat} (small : digit < 16) :
    hexValue? (Json.hexChar digit) = some digit := by
  have all : ∀ digit < 16, hexValue? (Json.hexChar digit) = some digit := by decide
  exact all digit small

theorem scan_unitEscape (inText : InText wrap) (control : c.toNat < 0x20) (frames : List Frame)
    (pieces : List Piece) :
    (['\\', 'u', '0', '0', Json.hexChar (c.toNat / 16), Json.hexChar (c.toNat % 16)].map
        some).foldl step (.reading frames (wrap ⟨pieces, .none⟩)) =
      .reading frames (wrap ⟨.unit c.toNat :: pieces, .none⟩) := by
  have high : hexValue? (Json.hexChar (c.toNat / 16)) = some (c.toNat / 16) :=
    hexValue?_hexChar (by omega)
  have low : hexValue? (Json.hexChar (c.toNat % 16)) = some (c.toNat % 16) :=
    hexValue?_hexChar (by omega)
  have opening : (⟨pieces, .none⟩ : Quoted).next (some '\\') = .more ⟨pieces, .backslash⟩ := rfl
  have mark : (⟨pieces, .backslash⟩ : Quoted).next (some 'u') = .more ⟨pieces, .hex 0 0⟩ := rfl
  have first : (⟨pieces, .hex 0 0⟩ : Quoted).next (some '0') = .more ⟨pieces, .hex 1 0⟩ := rfl
  have second : (⟨pieces, .hex 1 0⟩ : Quoted).next (some '0') = .more ⟨pieces, .hex 2 0⟩ := rfl
  have third : (⟨pieces, .hex 2 0⟩ : Quoted).next (some (Json.hexChar (c.toNat / 16))) =
      .more ⟨pieces, .hex 3 (c.toNat / 16)⟩ := by
    simp [Quoted.next, high]
  have whole : c.toNat / 16 * 16 + c.toNat % 16 = c.toNat := by omega
  have fourth : (⟨pieces, .hex 3 (c.toNat / 16)⟩ : Quoted).next
      (some (Json.hexChar (c.toNat % 16))) = .more ⟨.unit c.toNat :: pieces, .none⟩ := by
    simp [Quoted.next, low, whole]
  simp only [List.map_cons, List.map_nil, List.foldl_cons, List.foldl_nil,
    step_of_more inText opening, step_of_more inText mark, step_of_more inText first,
    step_of_more inText second, step_of_more inText third, step_of_more inText fourth]

theorem scan_escapeChar (inText : InText wrap) (c : Char) :
    ∃ piece : Piece, piece.Means c ∧ ∀ frames pieces,
      ((Json.escapeChar c).map some).foldl step (.reading frames (wrap ⟨pieces, .none⟩)) =
        .reading frames (wrap ⟨piece :: pieces, .none⟩) := by
  -- A character is written by a letter, by its code point or as it stands.
  by_cases short : ∃ letter, Json.escapeChar c = ['\\', letter] ∧ shortEscape? letter = some c
  · obtain ⟨letter, escaped, stands⟩ := short
    rw [escaped]
    exact ⟨.char c, .char c, scan_shortEscape inText stands⟩
  · by_cases control : c.toNat < 0x20
    · have escaped : Json.escapeChar c =
          ['\\', 'u', '0', '0', Json.hexChar (c.toNat / 16), Json.hexChar (c.toNat % 16)] := by
        grind [Json.escapeChar, shortEscape?]
      rw [escaped]
      exact ⟨.unit c.toNat, .unit c control, scan_unitEscape inText control⟩
    · have escaped : Json.escapeChar c = [c] := by
        grind [Json.escapeChar, shortEscape?]
      have notQuote : c ≠ '"' := by
        rintro rfl
        cases escaped
      have notBackslash : c ≠ '\\' := by
        rintro rfl
        cases escaped
      have plain (pieces : List Piece) :
          (⟨pieces, .none⟩ : Quoted).next (some c) = .more ⟨.char c :: pieces, .none⟩ := by
        simp [Quoted.next, control]
      rw [escaped]
      refine ⟨.char c, .char c, fun frames pieces => ?_⟩
      simp only [List.map_cons, List.map_nil, List.foldl_cons, List.foldl_nil,
        step_of_more inText (plain pieces)]

theorem scan_escaped (inText : InText wrap) (chars : List Char) :
    ∃ added : List Piece, resolve added = some chars ∧ ∀ frames pieces,
      ((chars.flatMap Json.escapeChar).map some).foldl step
          (.reading frames (wrap ⟨pieces, .none⟩)) =
        .reading frames (wrap ⟨added.reverse ++ pieces, .none⟩) := by
  induction chars with
  | nil => exact ⟨[], rfl, fun _ _ => rfl⟩
  | cons c rest ih =>
      obtain ⟨piece, means, head⟩ := scan_escapeChar inText c
      obtain ⟨added, resolved, tail⟩ := ih
      refine ⟨piece :: added, by simp [resolve_cons means, resolved], fun frames pieces => ?_⟩
      rw [List.flatMap_cons, List.map_append, List.foldl_append, head, tail]
      simp

theorem scan_quotedText (inText : InText wrap) (text : String) :
    ∃ part : Quoted, part.text? = some text ∧ part.next (some '"') = .complete ∧ ∀ frames,
      ((text.toList.flatMap Json.escapeChar).map some).foldl step
          (.reading frames (wrap .empty)) = .reading frames (wrap part) := by
  obtain ⟨added, resolved, scanned⟩ := scan_escaped inText text.toList
  refine ⟨⟨added.reverse, .none⟩, ?_, rfl, fun frames => ?_⟩
  · simp [Quoted.text?, resolved]
  · simpa [Quoted.empty] using scanned frames []

theorem map_some_quote (text : String) : (Json.quote text).map some =
    some '"' :: ((text.toList.flatMap Json.escapeChar).map some ++ [some '"']) := by
  simp [Json.quote]

theorem step_of_opens (opens : Opens mode) (notSpace : isSpace c = false) (notClosing : c ≠ ']') :
    step (.reading frames mode) (some c) = beginValue frames (some c) := by
  cases opens <;> simp [step, stepToken, skipsSpace, isSpaceSymbol, notSpace, readMode, notClosing]

theorem scan_string (opens : Opens mode) (frames : List Frame) (text : String) :
    ((Json.quote text).map some).foldl step (.reading frames mode) =
      finish frames (.string text) := by
  obtain ⟨part, isText, complete, scanned⟩ := scan_quotedText .value text
  rw [map_some_quote, List.foldl_cons, step_of_opens opens rfl (by decide), List.foldl_append]
  have opened : beginValue frames (some '"') = .reading frames (.valueText .empty) := rfl
  rw [opened, scanned]
  simp [step, stepToken, skipsSpace, readMode, complete, isText]

theorem scan_key (opensKey : OpensKey mode) (frames : List Frame)
    (fields : List (Option String × Node)) (key : String) :
    ((Json.quote key).map some).foldl step (.reading (.object fields :: frames) mode) =
      .reading (.member fields (some key) :: frames) .colon := by
  obtain ⟨part, isText, complete, scanned⟩ := scan_quotedText .key key
  have opened : step (.reading (.object fields :: frames) mode) (some '"') =
      .reading (.object fields :: frames) (.keyText .empty) := by
    cases opensKey <;> rfl
  rw [map_some_quote, List.foldl_cons, opened, List.foldl_append, scanned]
  simp [step, stepToken, skipsSpace, readMode, complete, isText]

theorem beginValue_of_digit {digit : Nat} (isDigit : Digits.ofChar? c = some digit) :
    beginValue frames (some c) = .reading frames (.numeral (.ofDigit digit)) := by
  unfold beginValue
  split <;> simp_all [Digits.ofChar?]

theorem step_numeral {number later : OpenNumeral} {symbol : Symbol}
    (more : number.next symbol = .more later) :
    step (.reading frames (.numeral number)) symbol = .reading frames (.numeral later) := by
  simp [step, more]

theorem scan_digits (number : OpenNumeral) (whole : number.phase = .whole) {digits : List Nat}
    (decimal : ∀ digit ∈ digits, digit < 10) :
    ((Digits.chars digits).map some).foldl step (.reading frames (.numeral number)) =
      .reading frames (.numeral { number with whole := digits.reverse ++ number.whole }) := by
  induction digits generalizing number with
  | nil => rfl
  | cons digit rest ih =>
      obtain ⟨small, restSmall⟩ := List.forall_mem_cons.mp decimal
      have more : number.next (some (Digits.toChar digit)) =
          .more { number with whole := digit :: number.whole } := by
        simp [OpenNumeral.next, Digits.ofChar?_toChar small, OpenNumeral.onDigit, whole]
      have later := ih { number with whole := digit :: number.whole } whole restSmall
      rw [Digits.chars, List.map_cons, List.map_cons, List.foldl_cons, step_numeral more,
        ← Digits.chars, later]
      simp

/-- A number whose first digit has been scanned. -/
def begun (negative : Bool) (digit : Nat) : OpenNumeral :=
  ⟨OpenNumeral.digitPhase digit, negative, [digit], none, false, none⟩

theorem scan_begun {first : Nat} {rest : List Nat} (zero : first = 0 → rest = [])
    (decimal : ∀ digit ∈ rest, digit < 10) (negative : Bool) (frames : List Frame) :
    ((Digits.chars rest).map some).foldl step (.reading frames (.numeral (begun negative first))) =
      .reading frames
        (.numeral { begun negative first with whole := (first :: rest).reverse }) := by
  by_cases isZero : first = 0
  · rw [zero isZero]
    rfl
  · have whole : (begun negative first).phase = .whole := by
      simp [begun, OpenNumeral.digitPhase, isZero]
    rw [scan_digits _ whole decimal]
    simp [begun]

theorem scan_first (opens : Opens mode) {first : Nat} (small : first < 10) (rest : List Nat)
    (negative : Bool) (frames : List Frame) :
    (((if negative then ['-'] else []) ++ Digits.chars (first :: rest)).map some).foldl step
        (.reading frames mode) =
      ((Digits.chars rest).map some).foldl step
        (.reading frames (.numeral (begun negative first))) := by
  have isDigit := Digits.ofChar?_toChar small
  cases negative with
  | false =>
      have all : ∀ digit < 10,
          isSpace (Digits.toChar digit) = false ∧ Digits.toChar digit ≠ ']' := by decide
      have plain := all first small
      simp only [Bool.false_eq_true, if_false, List.nil_append, Digits.chars, List.map_cons,
        List.foldl_cons, step_of_opens opens plain.1 plain.2, beginValue_of_digit isDigit]
      rfl
  | true =>
      have signed : step (.reading frames mode) (some '-') =
          .reading frames (.numeral .minus) := step_of_opens opens rfl (by decide)
      have more : OpenNumeral.minus.next (some (Digits.toChar first)) =
          .more (begun true first) := by
        simp [OpenNumeral.next, isDigit, OpenNumeral.onDigit, OpenNumeral.minus, begun]
      simp only [if_true, List.singleton_append, Digits.chars, List.map_cons, List.foldl_cons,
        signed, step_numeral more]

theorem decimalChars_eq (value : Int) : decimalChars value =
    (if decide (value < 0) then ['-'] else []) ++ Digits.chars (Digits.ofNat value.natAbs) := by
  rw [decimalChars]
  split <;> simp_all

theorem scan_decimal (opens : Opens mode) (value : Int) :
    ∃ number : OpenNumeral, number.mayEnd = true ∧
      number.numeral = ⟨decide (value < 0), Digits.ofNat value.natAbs, none, none⟩ ∧
      ∀ frames, ((decimalChars value).map some).foldl step (.reading frames mode) =
        .reading frames (.numeral number) := by
  obtain ⟨first, rest, parts, zero⟩ := Digits.exists_ofNat_eq_cons value.natAbs
  have decimal : ∀ digit ∈ first :: rest, digit < 10 := fun digit member =>
    Digits.lt_ten_of_mem_ofNat (parts ▸ member)
  obtain ⟨small, restSmall⟩ := List.forall_mem_cons.mp decimal
  refine ⟨{ begun (decide (value < 0)) first with whole := (first :: rest).reverse }, ?_, ?_, ?_⟩
  · by_cases isZero : first = 0 <;>
      simp [OpenNumeral.mayEnd, begun, OpenNumeral.digitPhase, isZero]
  · simp [OpenNumeral.numeral, begun, parts]
  · intro frames
    rw [decimalChars_eq, parts, scan_first opens small, scan_begun zero restSmall]

/-- Behind a numeral only white space, a comma or the end of a container may follow. -/
theorem Holds.step_of_closing {state : State} {node : Node} (holds : Holds frames node state)
    (closing : c = ',' ∨ c = ']' ∨ c = '\x7d') :
    step state (some c) = stepToken (finish frames node) (some c) := by
  cases holds with
  | finished =>
      cases frames with
      | nil => rfl
      | cons frame rest => cases frame <;> rfl
  | @numeral number mayEnd value =>
      have complete : number.next (some c) = .complete := by
        rcases closing with rfl | rfl | rfl <;>
          simp [OpenNumeral.next, Digits.ofChar?, OpenNumeral.onOther, mayEnd]
      simp [step, complete, value]

theorem Holds.conclude {state : State} {node : Node} (holds : Holds [] node state) :
    state.conclude = ⟨node, true⟩ := by
  cases holds with
  | finished => rfl
  | numeral mayEnd value => simp [State.conclude, mayEnd, finish, value]

end Scanner

/-- The text of a number is scanned as that number. -/
def Number.IsScanned (x : Number) : Prop :=
  ∃ number : Scanner.OpenNumeral, number.mayEnd = true ∧
    Node.ofNumeral number.numeral = .real x ∧ ∀ frames mode, Scanner.Opens mode →
      ((Json.realChars x).map some).foldl Scanner.step (.reading frames mode) =
        .reading frames (.numeral number)

namespace Json

mutual

/-- The numbers in a document can be read back: integers have 64 bits, and all others are scanned
as what they are. -/
def Legible : Json → Prop
  | whole value => -(Number.signBit : Int) ≤ value ∧ value < Numeral.wordLimit
  | real value => value.IsScanned
  | array items => ItemsLegible items
  | object fields => FieldsLegible fields
  | _ => True

def ItemsLegible : List Json → Prop
  | [] => True
  | item :: rest => item.Legible ∧ ItemsLegible rest

def FieldsLegible : List (String × Json) → Prop
  | [] => True
  | (_, value) :: rest => value.Legible ∧ FieldsLegible rest

end

end Json

theorem Node.ofNumeral_whole {value : Int} (lower : -(Number.signBit : Int) ≤ value)
    (upper : value < Numeral.wordLimit) :
    ofNumeral ⟨decide (value < 0), Digits.ofNat value.natAbs, none, none⟩ = .whole value := by
  have integer : Numeral.toInteger?
      ⟨decide (value < 0), Digits.ofNat value.natAbs, none, none⟩ = some value := by
    simp only [Numeral.toInteger?, Digits.value_ofNat, decide_eq_true_eq]
    by_cases negative : value < 0
    · rw [if_pos negative, if_pos (by omega)]
      congr 1
      omega
    · rw [if_neg negative, if_pos (by omega)]
      congr 1
      omega
  rw [ofNumeral, integer]

namespace Scanner

variable {frames : List Frame} {mode : Mode} {c : Char}

theorem scan_word {letters : List Char} (nonempty : letters ≠ []) (value : Node) :
    (letters.map some).foldl step (.reading frames (.word letters value)) =
      finish frames value := by
  induction letters with
  | nil => contradiction
  | cons letter rest ih =>
      cases rest with
      | nil => simp [step, stepToken, skipsSpace, readMode]
      | cons next others =>
          have more : step (.reading frames (.word (letter :: next :: others) value))
              (some letter) = .reading frames (.word (next :: others) value) := by
            simp [step, stepToken, skipsSpace, readMode]
          rw [List.map_cons, List.foldl_cons, more, ih (List.cons_ne_nil _ _)]

theorem scan_named {letters : List Char} {value : Node}
    (begins : step (.reading frames mode) (some c) = .reading frames (.word letters value))
    (nonempty : letters ≠ []) :
    ((c :: letters).map some).foldl step (.reading frames mode) = finish frames value := by
  rw [List.map_cons, List.foldl_cons, begins, scan_word nonempty]

theorem step_openArray (opens : Opens mode) (frames : List Frame) :
    step (.reading frames mode) (some '[') = .reading (.array [] :: frames) .firstItem :=
  step_of_opens opens rfl (by decide)

theorem step_openObject (opens : Opens mode) (frames : List Frame) :
    step (.reading frames mode) (some '\x7b') = .reading (.object [] :: frames) .firstKey :=
  step_of_opens opens rfl (by decide)

theorem stepToken_item (items : List Node) (node : Node) :
    stepToken (finish (.array items :: frames) node) (some ',') =
        .reading (.array (node :: items) :: frames) .value ∧
      stepToken (finish (.array items :: frames) node) (some ']') =
        finish frames (.array (node :: items).reverse true) :=
  ⟨rfl, rfl⟩

theorem stepToken_field (fields : List (Option String × Node)) (key : Option String) (node : Node) :
    stepToken (finish (.member fields key :: frames) node) (some ',') =
        .reading (.object ((key, node) :: fields) :: frames) .key ∧
      stepToken (finish (.member fields key :: frames) node) (some '\x7d') =
        finish frames (.object ((key, node) :: fields).reverse true) :=
  ⟨rfl, rfl⟩

theorem scan_keyColon (opensKey : OpensKey mode) (frames : List Frame)
    (fields : List (Option String × Node)) (key : String) :
    ((Json.quote key ++ [':']).map some).foldl step (.reading (.object fields :: frames) mode) =
      .reading (.member fields (some key) :: frames) .value := by
  rw [List.map_append, List.foldl_append, scan_key opensKey]
  rfl

mutual

/-- Behind the text of a document the scanner holds its node. -/
theorem scan_chars : (document : Json) → document.Legible →
    ∀ (frames : List Frame) {mode : Mode}, Opens mode →
      Holds frames (.ofJson document) ((document.chars.map some).foldl step (.reading frames mode))
  | .null, _, frames, mode, opens => by
      have begins : step (.reading frames mode) (some 'n') =
          .reading frames (.word "ull".toList .null) := step_of_opens opens rfl (by decide)
      have scanned := scan_named begins (by decide)
      exact scanned ▸ .finished
  | .bool true, _, frames, mode, opens => by
      have begins : step (.reading frames mode) (some 't') =
          .reading frames (.word "rue".toList (.bool true)) := step_of_opens opens rfl (by decide)
      have scanned := scan_named begins (by decide)
      exact scanned ▸ .finished
  | .bool false, _, frames, mode, opens => by
      have begins : step (.reading frames mode) (some 'f') =
          .reading frames (.word "alse".toList (.bool false)) := step_of_opens opens rfl (by decide)
      have scanned := scan_named begins (by decide)
      exact scanned ▸ .finished
  | .whole value, legible, frames, _, opens => by
      obtain ⟨number, mayEnd, numeral, scanned⟩ := scan_decimal opens value
      rw [Json.chars, scanned]
      exact .numeral mayEnd (by rw [numeral]; exact Node.ofNumeral_whole legible.1 legible.2)
  | .real value, legible, frames, mode, opens => by
      obtain ⟨number, mayEnd, real, scanned⟩ := legible
      rw [Json.chars, scanned frames mode opens]
      exact .numeral mayEnd real
  | .string value, _, frames, _, opens => by
      rw [Json.chars, scan_string opens]
      exact .finished
  | .array [], _, frames, _, opens => by
      rw [Json.chars, List.map_cons, List.foldl_cons, step_openArray opens]
      exact .finished
  | .array (item :: rest), legible, frames, _, opens => by
      have scanned := scan_items (item :: rest) (List.cons_ne_nil _ _) legible frames [] .firstItem
      rw [Json.chars, List.map_cons, List.foldl_cons, step_openArray opens, scanned]
      exact .finished
  | .object [], _, frames, _, opens => by
      rw [Json.chars, List.map_cons, List.foldl_cons, step_openObject opens]
      exact .finished
  | .object ((key, value) :: rest), legible, frames, _, opens => by
      have scanned := scan_fields ((key, value) :: rest) (List.cons_ne_nil _ _) legible frames []
        .firstKey
      rw [Json.chars, List.map_cons, List.foldl_cons, step_openObject opens, scanned]
      exact .finished

theorem scan_items : (items : List Json) → items ≠ [] → Json.ItemsLegible items →
    ∀ (frames : List Frame) (before : List Node) {mode : Mode}, Opens mode →
      ((Json.itemsChars items ++ [']']).map some).foldl step
          (.reading (.array before :: frames) mode) =
        finish frames (.array (before.reverse ++ Node.ofItems items) true)
  | [], nonempty, _, _, _, _, _ => absurd rfl nonempty
  | [item], _, legible, frames, before, _, opens => by
      have holds := scan_chars item legible.1 (.array before :: frames) opens
      rw [Json.itemsChars, List.map_append, List.foldl_append, List.map_singleton,
        List.foldl_cons, List.foldl_nil, holds.step_of_closing (.inr (.inl rfl)),
        (stepToken_item before _).2]
      simp [Node.ofItems]
  | item :: next :: rest, _, legible, frames, before, _, opens => by
      have holds := scan_chars item legible.1 (.array before :: frames) opens
      have later := scan_items (next :: rest) (List.cons_ne_nil _ _) legible.2 frames
        (.ofJson item :: before) .value
      have parts : Json.itemsChars (item :: next :: rest) ++ [']'] =
          item.chars ++ ',' :: (Json.itemsChars (next :: rest) ++ [']']) := by
        simp [Json.itemsChars]
      rw [parts, List.map_append, List.foldl_append, List.map_cons, List.foldl_cons,
        holds.step_of_closing (.inl rfl), (stepToken_item before _).1, later]
      simp [Node.ofItems]

theorem scan_fields : (fields : List (String × Json)) → fields ≠ [] → Json.FieldsLegible fields →
    ∀ (frames : List Frame) (before : List (Option String × Node)) {mode : Mode}, OpensKey mode →
      ((Json.fieldsChars fields ++ ['\x7d']).map some).foldl step
          (.reading (.object before :: frames) mode) =
        finish frames (.object (before.reverse ++ Node.ofFields fields) true)
  | [], nonempty, _, _, _, _, _ => absurd rfl nonempty
  | [(key, value)], _, legible, frames, before, _, opensKey => by
      have holds := scan_chars value legible.1 (.member before (some key) :: frames) .value
      have parts : Json.fieldsChars [(key, value)] ++ ['\x7d'] =
          (Json.quote key ++ [':']) ++ (value.chars ++ ['\x7d']) := by
        simp [Json.fieldsChars]
      rw [parts, List.map_append, List.foldl_append, scan_keyColon opensKey, List.map_append,
        List.foldl_append, List.map_singleton, List.foldl_cons, List.foldl_nil,
        holds.step_of_closing (.inr (.inr rfl)), (stepToken_field before _ _).2]
      simp [Node.ofFields]
  | (key, value) :: next :: rest, _, legible, frames, before, _, opensKey => by
      have holds := scan_chars value legible.1 (.member before (some key) :: frames) .value
      have later := scan_fields (next :: rest) (List.cons_ne_nil _ _) legible.2 frames
        ((some key, .ofJson value) :: before) .key
      have parts : Json.fieldsChars ((key, value) :: next :: rest) ++ ['\x7d'] =
          (Json.quote key ++ [':']) ++
            (value.chars ++ ',' :: (Json.fieldsChars (next :: rest) ++ ['\x7d'])) := by
        simp [Json.fieldsChars]
      rw [parts, List.map_append, List.foldl_append, scan_keyColon opensKey, List.map_append,
        List.foldl_append, List.map_cons, List.foldl_cons, holds.step_of_closing (.inl rfl),
        (stepToken_field before _ _).1, later]
      simp [Node.ofFields]

end

/-- The text of a document is scanned as the document. -/
theorem scan_text {document : Json} (legible : document.Legible) :
    scan (Symbol.ofString document.text) = ⟨.ofJson document, true⟩ := by
  rw [scan, Json.text, Symbol.ofString_ofList]
  exact (scan_chars document legible [] .value).conclude

end Scanner

/-- A reader of a written text meets the document that was written. -/
theorem Reader.decodeText_text {α : Type} (read : Reader α) {document : Json}
    (legible : document.Legible) :
    read.decodeText document.text = read (.text 0) (.ofJson document) := by
  rw [Reader.decodeText, Reader.decode, Scanner.scan_text legible]
  cases read (.text 0) (.ofJson document) <;> simp [bind, Except.bind]

end Audience
