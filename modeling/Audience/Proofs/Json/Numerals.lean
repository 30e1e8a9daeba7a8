import Audience.Proofs.Json.Inline
import Audience.Proofs.Json.Scanned

namespace Audience

/-! Numbers in the text of a document.

Until a numeral ends, what is scanned of it does not depend on the containers around it, and none
of the characters of a number ends one.  So a number whose text is read as that number when it
stands alone is scanned as that number wherever it stands.
-/

namespace Scanner

/-- Nothing can be read when the text ends here. -/
def State.Fails (state : State) : Prop :=
  state.conclude.clean = false ∨ state.conclude.node = .fault

variable {c : Char} {chars : List Char}

theorem scan_stopped (symbols : List Symbol) (node : Node) (within : Bool) :
    symbols.foldl step (.stopped node within) = .stopped node within := by
  induction symbols with
  | nil => rfl
  | cons symbol rest ih => exact ih

/-- An open numeral goes on through the whole text, or a text that is nothing else fails. -/
theorem scan_open (numeral : chars ⊆ numeralChars) (part : OpenNumeral) :
    (∃ later, ∀ frames, (chars.map some).foldl step (.reading frames (.numeral part)) =
      .reading frames (.numeral later)) ∨
    ((chars.map some).foldl step (.reading [] (.numeral part))).Fails := by
  induction chars generalizing part with
  | nil => exact .inl ⟨part, fun _ => rfl⟩
  | cons c rest ih =>
      obtain ⟨member, others⟩ := List.cons_subset.mp numeral
      have notSpace : isSpace c = false := by
        have all : numeralChars.all (fun c => !isSpace c) = true := by decide
        simpa using List.all_eq_true.mp all c member
      rw [List.map_cons]
      cases next : part.next (some c) with
      | more later => simpa only [List.foldl_cons, step_numeral next] using ih others later
      | complete =>
          have behind : step (.reading [] (.numeral part)) (some c) =
              .stopped (.ofNumeral part.numeral) false := by
            simp [step, next, stepToken, finish, isSpaceSymbol, notSpace]
          rw [List.foldl_cons, behind, scan_stopped]
          exact .inr (.inl rfl)
      | faulty =>
          have fault : step (.reading [] (.numeral part)) (some c) = .stopped .fault true := by
            simp [step, next, faultAtValue, enclose]
          rw [List.foldl_cons, fault, scan_stopped]
          exact .inr (.inr rfl)

theorem step_numeralChar (member : c ∈ numeralChars) :
    (∃ part, ∀ frames mode, Opens mode →
      step (.reading frames mode) (some c) = .reading frames (.numeral part)) ∨
    step start (some c) = .stopped .fault true := by
  have all : numeralChars.all (fun c => decide (isSpace c = false ∧ c ≠ ']' ∧
      ((Digits.ofChar? c).isSome ∨ c = '-' ∨ c = '+' ∨ c = '.' ∨ c = 'e'))) = true := by
    decide
  obtain ⟨notSpace, notClosing, digit | rfl | rfl | rfl | rfl⟩ :=
    of_decide_eq_true (List.all_eq_true.mp all c member)
  · obtain ⟨digit, isDigit⟩ := Option.isSome_iff_exists.mp digit
    refine .inl ⟨.ofDigit digit, fun frames mode opens => ?_⟩
    rw [step_of_opens opens notSpace notClosing, beginValue_of_digit isDigit]
  · exact .inl ⟨.minus, fun frames mode opens => step_of_opens opens notSpace notClosing⟩
  · exact .inr rfl
  · exact .inr rfl
  · exact .inr rfl

theorem scan_numeralChars (numeral : chars ⊆ numeralChars) :
    (∃ number, ∀ frames mode, Opens mode → (chars.map some).foldl step (.reading frames mode) =
      .reading frames (.numeral number)) ∨ ((chars.map some).foldl step start).Fails := by
  cases chars with
  | nil => exact .inr (.inr rfl)
  | cons c rest =>
      obtain ⟨member, others⟩ := List.cons_subset.mp numeral
      rw [List.map_cons]
      rcases step_numeralChar member with begins | fault
      · obtain ⟨part, begins⟩ := begins
        rcases scan_open others part with goesOn | fails
        · obtain ⟨number, goesOn⟩ := goesOn
          refine .inl ⟨number, fun frames mode opens => ?_⟩
          rw [List.foldl_cons, begins frames mode opens, goesOn frames]
        · refine .inr ?_
          rw [List.foldl_cons, start, begins [] .value .value]
          exact fails
      · rw [List.foldl_cons, fault, scan_stopped]
        exact .inr (.inr rfl)

end Scanner

namespace Json

variable {document value : Json}

theorem parse_text_eq (document : Json) : parse document.text =
    Reader.decode (fun reading node => node.readJson reading) (document.chars.map some) := by
  rw [parse, Reader.decodeText, text, Symbol.ofString_ofList]

theorem not_fails_of_parse (parsed : parse document.text = .ok value) :
    ¬((document.chars.map some).foldl Scanner.step Scanner.start).Fails := by
  intro fails
  rw [parse_text_eq, Reader.decode, Scanner.scan] at parsed
  rcases fails with unclean | fault
  · cases read : ((document.chars.map some).foldl Scanner.step
        Scanner.start).conclude.node.readJson (.text 0) <;>
      simp [read, unclean, bind, Except.bind] at parsed
  · simp [fault, Node.readJson, bind, Except.bind] at parsed

end Json

namespace Node

variable {numeral : Numeral} {x : Number}

theorem readJson_ofNumeral_iff (reading : Reading) :
    (ofNumeral numeral).readJson reading = .ok (.real x) ↔ ofNumeral numeral = .real x := by
  rw [ofNumeral]
  cases numeral.toInteger? with
  | some value => simp [readJson]
  | none => cases numeral.toNumber? <;> simp [readJson]

end Node

namespace Number

variable {x : Number}

/-- A text that is read as the number it was written from. -/
def ReadsBack (x : Number) : Prop := Json.parse (Json.real x).text = .ok (.real x)

theorem ReadsBack.isScanned (readsBack : x.ReadsBack) (finite : x.isFinite = true) :
    x.IsScanned := by
  have numeral : Json.realChars x ⊆ numeralChars := by
    rw [Json.realChars, if_pos finite]
    exact x.chars_subset
  have succeeds := Json.not_fails_of_parse readsBack
  rw [Json.chars] at succeeds
  obtain ⟨number, scanned⟩ := (Scanner.scan_numeralChars numeral).resolve_right succeeds
  have alone := scanned [] .value .value
  rw [Scanner.start, alone] at succeeds
  have mayEnd : number.mayEnd = true := by
    cases early : number.mayEnd with
    | true => rfl
    | false => exact absurd (.inr (by simp [Scanner.State.conclude, early, Scanner.enclose])) succeeds
  refine ⟨number, mayEnd, ?_, scanned⟩
  have holds : Scanner.Holds [] (.ofNumeral number.numeral) (.reading [] (.numeral number)) :=
    .numeral mayEnd rfl
  rw [ReadsBack, Json.parse_text_eq, Json.chars, Reader.decode, Scanner.scan, Scanner.start, alone,
    holds.conclude] at readsBack
  rw [← Node.readJson_ofNumeral_iff (.text 0)]
  cases read : (Node.ofNumeral number.numeral).readJson (.text 0) with
  | error refused => simp [read, bind, Except.bind] at readsBack
  | ok document => simpa [read, bind, Except.bind] using readsBack

end Number

end Audience
