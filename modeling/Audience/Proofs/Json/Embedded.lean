import Audience.Proofs.Json.Numerals
import Audience.Proofs.Json.Objects

namespace Audience

/-! A JSON text inside another.

The scanner never looks below the containers that it has opened itself.  So while it goes through a
text that stands as the value of a field, it does what it does when the text stands alone, on top of
the containers around the field; and behind the text it has the same value.
-/

namespace Node

/-- A container that ends. -/
def IsWhole : Node → Prop
  | array _ closed => closed = true
  | object _ closed => closed = true
  | _ => False

theorem not_isWhole_ofNumeral (numeral : Numeral) : ¬(ofNumeral numeral).IsWhole := by
  rw [ofNumeral]
  cases numeral.toInteger? with
  | some value => exact id
  | none => cases numeral.toNumber? <;> exact id

end Node

namespace Scanner

/-- What becomes of a state when a text is scanned as the value of a field, in an object that has
`fields` in front of it. -/
inductive Embedded (fields : Entries) (key : Option String) (around : List Frame) :
    State → State → Prop
  | reading (frames : List Frame) (mode : Mode) :
      Embedded fields key around (.reading frames mode)
        (.reading (frames ++ .member fields key :: around) mode)
  | done {node : Node} :
      Embedded fields key around (.done node) (finish (.member fields key :: around) node)
  /-- Of a text that stops nothing is said. -/
  | stopped {node : Node} {within : Bool} {other : State}
      (broken : within = true → ¬node.IsWhole) :
      Embedded fields key around (.stopped node within) other

variable {fields : Entries} {key : Option String} {around : List Frame} {node : Node}
  {state other : State} {symbols : List Symbol}

theorem not_isWhole_enclose {frames : List Frame} (notWhole : ¬node.IsWhole) :
    ¬(enclose frames node).IsWhole := by
  induction frames generalizing node with
  | nil => exact notWhole
  | cons frame rest ih =>
      cases frame with
      | array items => exact ih Bool.false_ne_true
      | object fields => exact ih Bool.false_ne_true
      | member fields key => exact ih Bool.false_ne_true

theorem not_isWhole_unclosed (frame : Frame) : ¬frame.unclosed.IsWhole := by
  cases frame with
  | array items => exact Bool.false_ne_true
  | object fields => exact Bool.false_ne_true
  | member fields key => exact Bool.false_ne_true

theorem embedded_faultAtValue (frames : List Frame) :
    Embedded fields key around (faultAtValue frames) other :=
  .stopped fun _ => not_isWhole_enclose id

theorem embedded_faultInContainer (frames : List Frame) :
    Embedded fields key around (faultInContainer frames) other := by
  cases frames with
  | nil => exact .stopped fun _ => id
  | cons frame rest => exact .stopped fun _ => not_isWhole_enclose (not_isWhole_unclosed frame)

theorem embedded_finish (frames : List Frame) (node : Node) :
    Embedded fields key around (finish frames node)
      (finish (frames ++ .member fields key :: around) node) := by
  cases frames with
  | nil => exact .done
  | cons frame rest =>
      cases frame with
      | array items => exact .reading (.array (node :: items) :: rest) .after
      | object entries => exact .reading (.object entries :: rest) .after
      | member entries name => exact .reading (.object ((name, node) :: entries) :: rest) .after

theorem embedded_beginValue (frames : List Frame) (symbol : Symbol) :
    Embedded fields key around (beginValue frames symbol)
      (beginValue (frames ++ .member fields key :: around) symbol) := by
  unfold beginValue
  split
  · exact .reading (.object [] :: frames) .firstKey
  · exact .reading (.array [] :: frames) .firstItem
  · exact .reading frames (.valueText .empty)
  · exact .reading frames (.numeral .minus)
  · exact .reading frames (.word "ull".toList .null)
  · exact .reading frames (.word "rue".toList (.bool true))
  · exact .reading frames (.word "alse".toList (.bool false))
  · split
    case h_1 digit _ => exact .reading frames (.numeral (.ofDigit digit))
    case h_2 => exact embedded_faultAtValue frames
  · exact embedded_faultAtValue frames

/-- The innermost container decides what a symbol between its values does. -/
inductive Between (frame : Frame) (symbol : Symbol) : Prop
  | goesOn {mode : Mode} (same : ∀ below, afterValue (frame :: below) symbol =
      .reading (frame :: below) mode)
  | ends {node : Node} (same : ∀ below, afterValue (frame :: below) symbol = finish below node)
  | faults (same : ∀ below, afterValue (frame :: below) symbol = faultInContainer (frame :: below))

theorem between (frame : Frame) (symbol : Symbol) : Between frame symbol := by
  cases frame with
  | array items =>
      by_cases comma : symbol = some ','
      · exact .goesOn fun below => by rw [comma, afterValue]
      by_cases closing : symbol = some ']'
      · exact .ends fun below => by rw [closing, afterValue]
      exact .faults fun below => by simp [afterValue, comma, closing]
  | object fields =>
      by_cases comma : symbol = some ','
      · exact .goesOn fun below => by rw [comma, afterValue]
      by_cases closing : symbol = some '\x7d'
      · exact .ends fun below => by rw [closing, afterValue]
      exact .faults fun below => by simp [afterValue, comma, closing]
  | member fields key => exact .faults fun below => by simp [afterValue]

theorem embedded_afterValue (frames : List Frame) (symbol : Symbol) :
    Embedded fields key around (afterValue frames symbol)
      (afterValue (frames ++ .member fields key :: around) symbol) := by
  cases frames with
  | nil =>
      have alone : afterValue [] symbol = faultInContainer [] := by simp [afterValue]
      rw [alone]
      exact embedded_faultInContainer []
  | cons frame rest =>
      rw [List.cons_append]
      cases between frame symbol with
      | @goesOn mode same =>
          rw [same, same]
          exact .reading (frame :: rest) mode
      | @ends node same =>
          rw [same, same]
          exact embedded_finish rest node
      | faults same =>
          rw [same]
          exact embedded_faultInContainer (frame :: rest)

theorem embedded_firstItem (frames : List Frame) (symbol : Symbol) :
    Embedded fields key around (readMode frames symbol .firstItem)
      (readMode (frames ++ .member fields key :: around) symbol .firstItem) := by
  rcases frames with _ | ⟨items | entries | ⟨entries, name⟩, rest⟩
  case cons.array =>
    by_cases closing : symbol = some ']'
    · subst closing
      exact embedded_finish rest (.array items.reverse true)
    · simpa [readMode, closing] using embedded_beginValue (.array items :: rest) symbol
  case nil => simpa [readMode] using embedded_beginValue [] symbol
  case cons.object => simpa [readMode] using embedded_beginValue (.object entries :: rest) symbol
  case cons.member =>
    simpa [readMode] using embedded_beginValue (.member entries name :: rest) symbol

theorem embedded_firstKey (frames : List Frame) (symbol : Symbol) :
    Embedded fields key around (readMode frames symbol .firstKey)
      (readMode (frames ++ .member fields key :: around) symbol .firstKey) := by
  by_cases quote : symbol = some '"'
  · subst quote
    rcases frames with _ | ⟨_ | _ | _, rest⟩ <;> exact .reading _ (.keyText .empty)
  rcases frames with _ | ⟨items | entries | ⟨entries, name⟩, rest⟩
  case cons.object =>
    by_cases closing : symbol = some '\x7d'
    · subst closing
      exact embedded_finish rest (.object entries.reverse true)
    · simpa [readMode, closing, quote] using embedded_faultInContainer (.object entries :: rest)
  case nil => simpa [readMode, quote] using embedded_faultInContainer []
  case cons.array =>
    simpa [readMode, quote] using embedded_faultInContainer (.array items :: rest)
  case cons.member =>
    simpa [readMode, quote] using embedded_faultInContainer (.member entries name :: rest)

theorem embedded_readMode (frames : List Frame) (symbol : Symbol) (mode : Mode) :
    Embedded fields key around (readMode frames symbol mode)
      (readMode (frames ++ .member fields key :: around) symbol mode) := by
  cases mode with
  | value => exact embedded_beginValue frames symbol
  | firstItem => exact embedded_firstItem frames symbol
  | firstKey => exact embedded_firstKey frames symbol
  | key =>
      simp only [readMode]
      split
      · exact .reading frames (.keyText .empty)
      · exact embedded_faultInContainer frames
  | colon =>
      simp only [readMode]
      split
      · exact .reading frames .value
      · exact embedded_faultAtValue frames
  | after => exact embedded_afterValue frames symbol
  | keyText part =>
      simp only [readMode]
      cases part.next symbol with
      | more later => exact .reading frames (.keyText later)
      | complete =>
          rcases frames with _ | ⟨items | entries | ⟨entries, name⟩, rest⟩
          case cons.object => exact .reading (.member entries part.text? :: rest) .colon
          all_goals exact embedded_faultInContainer _
      | faulty => exact embedded_faultInContainer frames
  | valueText part =>
      simp only [readMode]
      cases part.next symbol with
      | more later => exact .reading frames (.valueText later)
      | complete =>
          cases part.text? with
          | some text => exact embedded_finish frames (.string text)
          | none => exact embedded_finish frames .unreadable
      | faulty => exact embedded_faultAtValue frames
  | numeral part => exact embedded_faultAtValue frames
  | word letters value =>
      simp only [readMode]
      split
      · split
        · exact embedded_finish frames value
        · exact embedded_faultAtValue frames
      · split
        · exact .reading frames (.word _ value)
        · exact embedded_faultAtValue frames
      · exact embedded_faultAtValue frames

theorem embedded_stepToken (symbol : Symbol) (embedded : Embedded fields key around state other) :
    Embedded fields key around (stepToken state symbol) (stepToken other symbol) := by
  cases embedded with
  | reading frames mode =>
      simp only [stepToken]
      split
      · exact .reading frames mode
      · exact embedded_readMode frames symbol mode
  | @done node =>
      cases space : isSpaceSymbol symbol with
      | true => simpa [stepToken, finish, skipsSpace, space] using .done
      | false =>
          simp only [stepToken, space]
          exact .stopped fun within => absurd within Bool.false_ne_true
  | stopped broken => exact .stopped broken

theorem embedded_step (symbol : Symbol) (embedded : Embedded fields key around state other) :
    Embedded fields key around (step state symbol) (step other symbol) := by
  cases embedded with
  | reading frames mode =>
      cases mode with
      | numeral part =>
          simp only [step]
          cases part.next symbol with
          | more later => exact .reading frames (.numeral later)
          | complete => exact embedded_stepToken symbol (embedded_finish frames _)
          | faulty => exact embedded_faultAtValue frames
      | keyText part => exact embedded_stepToken symbol (.reading frames (.keyText part))
      | valueText part => exact embedded_stepToken symbol (.reading frames (.valueText part))
      | word letters value =>
          exact embedded_stepToken symbol (.reading frames (.word letters value))
      | _ => exact embedded_stepToken symbol (.reading frames _)
  | done => exact embedded_stepToken symbol .done
  | stopped broken => exact .stopped broken

theorem embedded_foldl (embedded : Embedded fields key around state other) :
    Embedded fields key around (symbols.foldl step state) (symbols.foldl step other) := by
  induction symbols generalizing state other with
  | nil => exact embedded
  | cons symbol rest ih => exact ih (embedded_step symbol embedded)

/-- A text that ends inside a value holds no whole container. -/
theorem not_isWhole_conclude_reading (frames : List Frame) (mode : Mode) :
    ¬(State.reading frames mode).conclude.node.IsWhole := by
  have atValue : ¬(enclose frames .fault).IsWhole := not_isWhole_enclose id
  have inContainer : ∀ (frame : Frame) rest, ¬(enclose rest frame.unclosed).IsWhole :=
    fun frame rest => not_isWhole_enclose (not_isWhole_unclosed frame)
  cases mode with
  | numeral part =>
      by_cases ends : part.mayEnd = true
      · rcases frames with _ | ⟨_ | _ | _, rest⟩
        case nil =>
          rw [State.conclude, if_pos ends]
          exact Node.not_isWhole_ofNumeral part.numeral
        all_goals
          rw [State.conclude, if_pos ends]
          exact inContainer _ rest
      · rw [State.conclude, if_neg ends]
        exact atValue
  | value | colon | valueText | word => exact atValue
  | firstItem | firstKey | key | after | keyText =>
      cases frames with
      | nil => exact atValue
      | cons frame rest => exact inContainer frame rest

theorem Embedded.eq_finish (embedded : Embedded fields key around state other)
    (concluded : state.conclude = ⟨node, true⟩) (whole : node.IsWhole) :
    other = finish (.member fields key :: around) node := by
  cases embedded with
  | reading frames mode =>
      have broken := not_isWhole_conclude_reading frames mode
      rw [concluded] at broken
      exact absurd whole broken
  | done =>
      cases concluded
      rfl
  | stopped broken =>
      cases concluded
      exact absurd whole (broken rfl)

/-- A whole container in a text of its own is the same value where the text stands in a field. -/
theorem foldl_embedded (fields : Entries) (key : Option String) (around : List Frame)
    (scanned : scan symbols = ⟨node, true⟩) (whole : node.IsWhole) :
    symbols.foldl step (.reading (.member fields key :: around) .value) =
      finish (.member fields key :: around) node :=
  (embedded_foldl (.reading [] .value)).eq_finish scanned whole

end Scanner

end Audience
