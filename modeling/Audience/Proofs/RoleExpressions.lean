import Audience.Rule.Roles

namespace Audience

/-! What role expressions mean, told without working through a list from left to right.

`Reading` says what an expression of each shape is worth.  Evaluating is a reading, and there is no
other.
-/

namespace RoleExpression

/-- Elements two by two.  A last element without partner is left out. -/
def pairs : List Value → List (Value × Value)
  | operator :: operand :: rest => (operator, operand) :: pairs rest
  | _ => []

/-- A pair with a known operator. -/
def link? : Value × Value → Option (Operator × Value)
  | (.text "AND", operand) => some (.all, operand)
  | (.text "OR", operand) => some (.any, operand)
  | _ => none

/-- The operators and operands behind the first expression of a chain.  Pairs with an unknown
operator are left out. -/
def links (rest : List Value) : List (Operator × Value) :=
  (pairs rest).filterMap link?

def Unbroken (holds : Value → Bool) (links : List (Operator × Value)) : Prop :=
  ∀ link ∈ links, link.1 = .all → holds link.2 = true

/-- An operand behind `OR` holds, and so do all that stand behind `AND` after it. -/
def Resumed (holds : Value → Bool) (links : List (Operator × Value)) : Prop :=
  ∃ before operand after, links = before ++ (.any, operand) :: after ∧ holds operand = true ∧
    Unbroken holds after

/-- A chain holds from its first expression on, or from one behind `OR` on. -/
def Carried (holds : Value → Bool) (first : Bool) (links : List (Operator × Value)) : Prop :=
  (first = true ∧ Unbroken holds links) ∨ Resumed holds links

/-- Expressions with one operator between each two of them. -/
def joined (operator : String) (first : Value) (others : List Value) : Value :=
  .list (first :: others.flatMap fun other => [.text operator, other])

/-- What the expressions of each shape are worth for the roles of a caller. -/
structure Reading (roles : Option NameSet) (holds : Value → Bool) : Prop where
  role : ∀ name, holds (.text name) = true ↔ ∃ held, roles = some held ∧ held.contains name = true
  null : holds .null = true
  bool : ∀ value, holds (.bool value) = true
  number : ∀ value, holds (.number value) = true
  map : ∀ entries, holds (.map entries) = true
  empty : holds (.list []) = true
  single : ∀ inner, holds (.list [inner]) = holds inner
  negated : ∀ inner, holds (.list [.text "NOT", inner]) = !holds inner
  chain : ∀ first second rest, ¬(first = .text "NOT" ∧ rest = []) →
    (holds (.list (first :: second :: rest)) = true ↔
      Carried holds (holds first) (links (second :: rest)))
  anyOf : ∀ first others, holds (joined "OR" first others) = (first :: others).any holds
  allOf : ∀ first others, holds (joined "AND" first others) = (first :: others).all holds

variable {roles : Option NameSet} {holds : Value → Bool} {first : Bool} {operator operand : Value}
  {rest : List Value}

theorem text?_eq_some_iff {value : Value} {name : String} :
    value.text? = some name ↔ value = .text name := by
  cases value <;> simp [Value.text?]

theorem mem_of_mem_pairs {pair : Value × Value} (member : pair ∈ pairs rest) : pair.2 ∈ rest := by
  fun_induction pairs rest with
  | case1 operator operand rest ih =>
      rcases List.mem_cons.mp member with rfl | later
      · simp
      · simp [ih later]
  | case2 rest => simp at member

theorem link?_eq (operator operand : Value) :
    link? (operator, operand) = (operator.text?.bind Operator.ofName?).map (·, operand) := by
  cases operator with
  | text name =>
      simp only [link?, Value.text?, Option.bind_some, Operator.ofName?]
      split <;> simp_all
  | _ => rfl

theorem mem_of_mem_links {link : Operator × Value} (member : link ∈ links rest) :
    link.2 ∈ rest := by
  obtain ⟨⟨operator, operand⟩, paired, known⟩ := List.mem_filterMap.mp member
  rw [link?_eq] at known
  obtain ⟨_, _, rfl⟩ := Option.map_eq_some_iff.mp known
  exact mem_of_mem_pairs paired

theorem links_of_known {known : Operator}
    (named : operator.text?.bind Operator.ofName? = some known) :
    links (operator :: operand :: rest) = (known, operand) :: links rest := by
  have linked : link? (operator, operand) = some (known, operand) := by
    rw [link?_eq, named, Option.map_some]
  rw [links, pairs, List.filterMap_cons_some linked, links]

theorem links_of_unknown (unknown : operator.text?.bind Operator.ofName? = none) :
    links (operator :: operand :: rest) = links rest := by
  have unlinked : link? (operator, operand) = none := by
    rw [link?_eq, unknown, Option.map_none]
  rw [links, pairs, List.filterMap_cons_none unlinked, links]

theorem evaluatePairs_eq_foldl (result : Bool) (rest : List Value) :
    evaluatePairs roles result rest = (links rest).foldl
      (fun result link => link.1.apply result (evaluate roles link.2)) result := by
  fun_induction pairs rest generalizing result with
  | case1 operator operand rest ih =>
      rw [evaluatePairs]
      cases named : operator.text?.bind Operator.ofName? with
      | none => simp only [links_of_unknown named, ih]
      | some known => simp only [links_of_known named, ih, List.foldl_cons]
  | case2 rest short =>
      rw [evaluatePairs, links, pairs, List.filterMap_nil, List.foldl_nil]
      · exact short
      · exact short

section

variable {link : Operator × Value} {links : List (Operator × Value)}

theorem unbroken_cons : Unbroken holds (link :: links) ↔
    (link.1 = .all → holds link.2 = true) ∧ Unbroken holds links :=
  List.forall_mem_cons

theorem resumed_cons : Resumed holds (link :: links) ↔
    (link.1 = .any ∧ holds link.2 = true ∧ Unbroken holds links) ∨ Resumed holds links := by
  constructor
  · intro resumed
    obtain ⟨before, operand, after, parts, here, unbroken⟩ := resumed
    cases before with
    | nil =>
        obtain ⟨rfl, rfl⟩ := List.cons.inj parts
        exact .inl ⟨rfl, here, unbroken⟩
    | cons head before =>
        exact .inr ⟨before, operand, after, (List.cons.inj parts).2, here, unbroken⟩
  · intro resumed
    rcases resumed with ⟨isAny, here, unbroken⟩ | ⟨before, operand, after, rfl, here, unbroken⟩
    · exact ⟨[], link.2, links, by rw [← isAny]; rfl, here, unbroken⟩
    · exact ⟨link :: before, operand, after, rfl, here, unbroken⟩

/-- The first link of a chain can be taken together with what stands before it. -/
theorem carried_cons : Carried holds first (link :: links) ↔
    Carried holds (link.1.apply first (holds link.2)) links := by
  obtain ⟨operator, operand⟩ := link
  simp only [Carried, unbroken_cons, resumed_cons]
  cases operator with
  | all => simp [Operator.apply, and_assoc]
  | any => simp [Operator.apply, or_and_right, or_assoc]

theorem foldl_eq_true_iff_carried : links.foldl
      (fun result link => link.1.apply result (holds link.2)) first = true ↔
    Carried holds first links := by
  induction links generalizing first with
  | nil => simp [Carried, Unbroken, Resumed]
  | cons link rest ih => rw [List.foldl_cons, ih, carried_cons]

theorem carried_congr {other : Value → Bool} (same : ∀ link ∈ links, holds link.2 = other link.2) :
    Carried holds first links ↔ Carried other first links := by
  induction links generalizing first with
  | nil => simp [Carried, Unbroken, Resumed]
  | cons link rest ih =>
      obtain ⟨here, later⟩ := List.forall_mem_cons.mp same
      rw [carried_cons, carried_cons, here, ih later]

end

theorem evaluate_chain {first second : Value} {rest : List Value}
    (plain : ¬(first = .text "NOT" ∧ rest = [])) :
    evaluate roles (.list (first :: second :: rest)) = true ↔
      Carried (evaluate roles) (evaluate roles first) (links (second :: rest)) := by
  rw [← foldl_eq_true_iff_carried, ← evaluatePairs_eq_foldl, evaluate]
  cases rest with
  | nil =>
      have notNegated : first.text? ≠ some negation := fun negated =>
        plain ⟨text?_eq_some_iff.mp negated, rfl⟩
      simp [evaluateList, evaluatePairs, notNegated]
  | cons third rest => simp [evaluateList]

theorem links_joined {name : String} {operator : Operator}
    (named : Operator.ofName? name = some operator) (others : List Value) :
    links (others.flatMap fun other => [.text name, other]) = others.map (operator, ·) := by
  induction others with
  | nil => rfl
  | cons other rest ih =>
      have known : (Value.text name).text?.bind Operator.ofName? = some operator := named
      simp only [List.flatMap_cons, List.cons_append, List.nil_append, links_of_known known, ih,
        List.map_cons]

theorem evaluate_joined {name : String} {operator : Operator}
    (named : Operator.ofName? name = some operator) (first : Value) (others : List Value) :
    evaluate roles (joined name first others) = true ↔
      Carried (evaluate roles) (evaluate roles first) (others.map (operator, ·)) := by
  rw [← links_joined named, joined]
  cases others with
  | nil => simp [evaluate, evaluateList, Carried, Unbroken, Resumed, links, pairs]
  | cons other rest => exact evaluate_chain (by simp)

theorem carried_any {others : List Value} : Carried holds first (others.map (.any, ·)) ↔
    first = true ∨ ∃ other ∈ others, holds other = true := by
  induction others generalizing first with
  | nil => simp [Carried, Unbroken, Resumed]
  | cons other rest ih => simp [carried_cons, ih, Operator.apply, or_assoc]

theorem carried_all {others : List Value} : Carried holds first (others.map (.all, ·)) ↔
    first = true ∧ ∀ other ∈ others, holds other = true := by
  induction others generalizing first with
  | nil => simp [Carried, Unbroken, Resumed]
  | cons other rest ih => simp [carried_cons, ih, Operator.apply, and_assoc]

theorem reading_evaluate (roles : Option NameSet) : Reading roles (evaluate roles) where
  role := by simp [evaluate, RoleExpression.holds, Option.any_eq_true]
  null := rfl
  bool _ := rfl
  number _ := rfl
  map _ := rfl
  empty := rfl
  single inner := by simp [evaluate, evaluateList]
  negated inner := by simp [evaluate, evaluateList, Value.text?, negation]
  chain _ _ _ := evaluate_chain
  anyOf first others := by
    have named : Operator.ofName? "OR" = some .any := rfl
    rw [Bool.eq_iff_iff, evaluate_joined named, carried_any]
    simp
  allOf first others := by
    have named : Operator.ofName? "AND" = some .all := rfl
    rw [Bool.eq_iff_iff, evaluate_joined named, carried_all]
    simp

/-- An expression is worth the same in all readings, since what it is worth hangs on the
expressions inside it only. -/
theorem Reading.agree {other : Value → Bool} (reading : Reading roles holds)
    (otherReading : Reading roles other) (value : Value) : holds value = other value := by
  match value with
  | .text name => rw [Bool.eq_iff_iff, reading.role, otherReading.role]
  | .null => rw [reading.null, otherReading.null]
  | .bool flag => rw [reading.bool, otherReading.bool]
  | .number level => rw [reading.number, otherReading.number]
  | .map entries => rw [reading.map, otherReading.map]
  | .list [] => rw [reading.empty, otherReading.empty]
  | .list [inner] => rw [reading.single, otherReading.single, reading.agree otherReading inner]
  | .list (first :: second :: rest) =>
      by_cases isNegation : first = .text "NOT" ∧ rest = []
      · obtain ⟨rfl, rfl⟩ := isNegation
        rw [reading.negated, otherReading.negated, reading.agree otherReading second]
      · have inside : ∀ link ∈ links (second :: rest), holds link.2 = other link.2 := by
          intro link member
          have smaller : sizeOf link.2 < 1 + sizeOf second + sizeOf rest :=
            List.sizeOf_lt_of_mem (mem_of_mem_links member)
          exact reading.agree otherReading link.2
        rw [Bool.eq_iff_iff, reading.chain first second rest isNegation,
          otherReading.chain first second rest isNegation, reading.agree otherReading first,
          carried_congr inside]
termination_by sizeOf value

/-- Evaluating is the one reading of role expressions. -/
theorem reading_iff_eq_evaluate (roles : Option NameSet) (holds : Value → Bool) :
    Reading roles holds ↔ holds = evaluate roles := by
  constructor
  · intro reading
    exact funext (reading.agree (reading_evaluate roles))
  · intro same
    subst same
    exact reading_evaluate roles

end RoleExpression

end Audience
