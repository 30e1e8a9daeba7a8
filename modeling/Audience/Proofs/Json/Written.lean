import Audience.Caller.Encode
import Audience.Proofs.Json.Objects
import Audience.Proofs.Json.Scanned

namespace Audience

/-! Reading back what was written. -/

namespace Json

mutual

/-- How deep the arrays and objects of a document are nested. -/
def height : Json → Nat
  | array items => itemsHeight items + 1
  | object fields => fieldsHeight fields + 1
  | _ => 0

def itemsHeight : List Json → Nat
  | [] => 0
  | item :: rest => max item.height (itemsHeight rest)

def fieldsHeight : List (String × Json) → Nat
  | [] => 0
  | (_, value) :: rest => max value.height (fieldsHeight rest)

end

@[simp] theorem legible_string (value : String) : (string value).Legible := trivial

@[simp] theorem legible_array {items : List Json} :
    (array items).Legible ↔ ∀ item ∈ items, item.Legible := by
  rw [Legible]
  induction items with
  | nil => simp [ItemsLegible]
  | cons item rest ih => simp [ItemsLegible, ih]

@[simp] theorem legible_object {fields : List (String × Json)} :
    (object fields).Legible ↔ ∀ field ∈ fields, field.2.Legible := by
  rw [Legible]
  induction fields with
  | nil => simp [FieldsLegible]
  | cons field rest ih =>
      obtain ⟨key, value⟩ := field
      rw [FieldsLegible, ih, List.forall_mem_cons]

theorem itemsHeight_le_iff {items : List Json} {levels : Nat} :
    itemsHeight items ≤ levels ↔ ∀ item ∈ items, item.height ≤ levels := by
  induction items with
  | nil => simp [itemsHeight]
  | cons item rest ih => rw [itemsHeight, Nat.max_le, ih, List.forall_mem_cons]

theorem fieldsHeight_le_iff {fields : List (String × Json)} {levels : Nat} :
    fieldsHeight fields ≤ levels ↔ ∀ field ∈ fields, field.2.height ≤ levels := by
  induction fields with
  | nil => simp [fieldsHeight]
  | cons field rest ih =>
      obtain ⟨key, value⟩ := field
      rw [fieldsHeight, Nat.max_le, ih, List.forall_mem_cons]

@[simp] theorem mem_optionalField {name : String} {value : Option Json} {field : String × Json} :
    field ∈ optionalField name value ↔ field.1 = name ∧ value = some field.2 := by
  obtain ⟨key, document⟩ := field
  cases value <;> simp [optionalField, Prod.ext_iff, eq_comm]

/-- The numbers of a document can be read back, and it is nested this deep at most. -/
def Fits (levels : Nat) (document : Json) : Prop :=
  document.Legible ∧ document.height ≤ levels

def FieldsFit (levels : Nat) (fields : List (String × Json)) : Prop :=
  ∀ field ∈ fields, field.2.Fits levels

section

variable {levels : Nat} {name : String} {fields others : List (String × Json)}

@[simp] theorem fits_bool (value : Bool) : (bool value).Fits levels :=
  ⟨trivial, Nat.zero_le levels⟩

@[simp] theorem fits_string (value : String) : (string value).Fits levels :=
  ⟨trivial, Nat.zero_le levels⟩

@[simp] theorem legible_int64 (value : Int64) : (whole value.toInt).Legible := by
  have lower := value.le_toInt
  have upper := value.toInt_lt
  refine ⟨?_, ?_⟩
  · simp only [Number.signBit]
    omega
  · simp only [Numeral.wordLimit]
    omega

@[simp] theorem fits_int64 (value : Int64) : (whole value.toInt).Fits levels :=
  ⟨legible_int64 value, Nat.zero_le levels⟩

@[simp] theorem fits_strings (values : List String) : (strings values).Fits (levels + 1) := by
  simp [Fits, strings, height, itemsHeight_le_iff]

@[simp] theorem fits_object : (object fields).Fits (levels + 1) ↔ FieldsFit levels fields := by
  simp only [Fits, FieldsFit, legible_object, height, Nat.add_le_add_iff_right,
    fieldsHeight_le_iff, imp_and, forall_and]

@[simp] theorem fieldsFit_nil : FieldsFit levels [] := nofun

@[simp] theorem fieldsFit_cons {field : String × Json} :
    FieldsFit levels (field :: fields) ↔ field.2.Fits levels ∧ FieldsFit levels fields :=
  List.forall_mem_cons

@[simp] theorem fieldsFit_append :
    FieldsFit levels (fields ++ others) ↔ FieldsFit levels fields ∧ FieldsFit levels others :=
  List.forall_mem_append

@[simp] theorem fieldsFit_optionalField {value : Option Json} :
    FieldsFit levels (optionalField name value) ↔ ∀ document ∈ value, document.Fits levels := by
  cases value <;> simp [optionalField]

@[simp] theorem fieldsFit_optionalString (value : Option String) :
    FieldsFit levels (optionalString name value) := by
  simp [optionalString]

end

end Json

namespace Reading

variable {reading : Reading} {levels fewer : Nat}

/-- A document nested this deep does not exceed the limit. -/
def Admits (levels : Nat) : Reading → Prop
  | text depth => depth + levels ≤ depthLimit
  | value => True

theorem admits_text {depth : Nat} : (text depth).Admits levels ↔ depth + levels ≤ depthLimit :=
  Iff.rfl

theorem admits_value : value.Admits levels := trivial

theorem Admits.enter (admits : reading.Admits (levels + 1)) :
    ∃ inner, reading.enter = .ok inner ∧ inner.Admits levels := by
  cases reading with
  | value => exact ⟨.value, rfl, trivial⟩
  | text depth =>
      simp only [Admits] at admits
      have below : depth < depthLimit := by omega
      refine ⟨.text (depth + 1), by simp [Reading.enter, below], ?_⟩
      simp only [Admits]
      omega

theorem Admits.of_le (admits : reading.Admits levels) (le : fewer ≤ levels) :
    reading.Admits fewer := by
  cases reading with
  | value => trivial
  | text depth => exact Nat.le_trans (Nat.add_le_add_left le depth) admits

theorem Admits.enter_array {items : List Json} (admits : reading.Admits (Json.array items).height) :
    ∃ inner, reading.enter = .ok inner ∧ ∀ item ∈ items, inner.Admits item.height := by
  obtain ⟨inner, entered, admitted⟩ := admits.enter
  have below := Json.itemsHeight_le_iff.mp (Nat.le_refl (Json.itemsHeight items))
  exact ⟨inner, entered, fun item member => admitted.of_le (below item member)⟩

theorem Admits.enter_object {fields : List (String × Json)}
    (admits : reading.Admits (Json.object fields).height) :
    ∃ inner, reading.enter = .ok inner ∧ ∀ field ∈ fields, inner.Admits field.2.height := by
  obtain ⟨inner, entered, admitted⟩ := admits.enter
  have below := Json.fieldsHeight_le_iff.mp (Nat.le_refl (Json.fieldsHeight fields))
  exact ⟨inner, entered, fun field member => admitted.of_le (below field member)⟩

end Reading

namespace Node

theorem ofFields_eq_map (fields : List (String × Json)) :
    ofFields fields = fields.map fun field => (some field.1, ofJson field.2) := by
  induction fields with
  | nil => rfl
  | cons field rest ih => rw [ofFields, ih, List.map_cons]

theorem ofJson_ne_null {document : Json} (notNull : document ≠ .null) :
    ofJson document ≠ .null := by
  cases document with
  | null => contradiction
  | _ => nofun

mutual

theorem wellFormed_ofJson : (document : Json) → (ofJson document).wellFormed = true
  | .null => rfl
  | .bool _ => rfl
  | .whole _ => rfl
  | .real _ => rfl
  | .string _ => rfl
  | .array items => itemsWellFormed_ofItems items
  | .object fields => fieldsWellFormed_ofFields fields

theorem itemsWellFormed_ofItems : (items : List Json) → itemsWellFormed (ofItems items) = true
  | [] => rfl
  | item :: rest => by
      rw [ofItems, itemsWellFormed, wellFormed_ofJson item, itemsWellFormed_ofItems rest]
      rfl

theorem fieldsWellFormed_ofFields :
    (fields : List (String × Json)) → fieldsWellFormed (ofFields fields) = true
  | [] => rfl
  | (key, value) :: rest => by
      rw [ofFields, fieldsWellFormed, wellFormed_ofJson value, fieldsWellFormed_ofFields rest]
      rfl

end

theorem skip_ofJson (reading : Reading) (document : Json) :
    (ofJson document).skip reading = .ok () := by
  cases reading with
  | value => rfl
  | text depth => simp [skip, wellFormed_ofJson]

mutual

/-- A document is read back as JSON. -/
theorem readJson_ofJson : (document : Json) → ∀ {reading : Reading},
    reading.Admits document.height → (ofJson document).readJson reading = .ok document
  | .null, _, _ => rfl
  | .bool _, _, _ => rfl
  | .whole _, _, _ => rfl
  | .real _, _, _ => rfl
  | .string _, _, _ => rfl
  | .array items, _, admits => by
      obtain ⟨inner, entered, admitted⟩ := admits.enter
      have read := readItems_ofItems items admitted
      simp [ofJson, readJson, entered, read, bind, Except.bind]
  | .object fields, _, admits => by
      obtain ⟨inner, entered, admitted⟩ := admits.enter
      have read := readFields_ofFields fields admitted
      simp [ofJson, readJson, entered, read, bind, Except.bind]

theorem readItems_ofItems : (items : List Json) → ∀ {reading : Reading},
    reading.Admits (Json.itemsHeight items) → readItems reading (ofItems items) = .ok items
  | [], _, _ => rfl
  | item :: rest, _, admits => by
      have first := readJson_ofJson item (admits.of_le (Nat.le_max_left _ _))
      have others := readItems_ofItems rest (admits.of_le (Nat.le_max_right _ _))
      simp [ofItems, readItems, first, others, bind, Except.bind]

theorem readFields_ofFields : (fields : List (String × Json)) → ∀ {reading : Reading},
    reading.Admits (Json.fieldsHeight fields) → readFields reading (ofFields fields) = .ok fields
  | [], _, _ => rfl
  | (key, value) :: rest, _, admits => by
      have first := readJson_ofJson value (admits.of_le (Nat.le_max_left _ _))
      have others := readFields_ofFields rest (admits.of_le (Nat.le_max_right _ _))
      simp [ofFields, readFields, first, others, bind, Except.bind]

end

end Node

namespace Reader

theorem int64_ofJson (reading : Reading) (value : Int64) :
    int64 reading (.ofJson (.whole value.toInt)) = .ok value := by
  have within : Int64.minValue.toInt ≤ value.toInt ∧ value.toInt ≤ Int64.maxValue.toInt :=
    ⟨Int64.le_iff_toInt_le.mp (Int64.minValue_le value),
      Int64.le_iff_toInt_le.mp (Int64.le_maxValue value)⟩
  rw [Node.ofJson, int64, if_pos within, Int64.ofInt_toInt]

theorem optional_of_ne_null {α : Type} {read : Reader α} {node : Node} (notNull : node ≠ .null) :
    optional read reading node = (read reading node).map some := by
  cases node with
  | null => contradiction
  | _ => rfl

/-- A list is read back when each of its items is. -/
theorem list_ofJson {α : Type} {read : Reader α} {encode : α → Json} {reading : Reading}
    {values : List α} (admits : reading.Admits (Json.array (values.map encode)).height)
    (reads : ∀ value ∈ values, ∀ inner : Reading, inner.Admits (encode value).height →
      read inner (.ofJson (encode value)) = .ok value) :
    list read reading (.ofJson (.array (values.map encode))) = .ok values := by
  obtain ⟨inner, entered, admitted⟩ := admits.enter_array
  have each : ∀ value ∈ values, read inner (.ofJson (encode value)) = .ok value :=
    fun value member => reads value member inner (admitted _ (List.mem_map_of_mem member))
  have readItems : items read inner (Node.ofItems (values.map encode)) = .ok values := by
    clear admits reads admitted
    induction values with
    | nil => rfl
    | cons value rest ih =>
        obtain ⟨first, others⟩ := List.forall_mem_cons.mp each
        simp [Node.ofItems, items, first, ih others, bind, Except.bind]
  simp [list, Node.ofJson, entered, readItems, bind, Except.bind]

theorem list_string_ofJson {reading : Reading} (admits : reading.Admits 1) (values : List String) :
    list string reading (.ofJson (.strings values)) = .ok values := by
  have flat : (Json.strings values).Fits 1 := Json.fits_strings values
  exact list_ofJson (admits.of_le flat.2) fun _ _ _ _ => rfl

end Reader

namespace Field

variable {α : Type} {field : Field} {reading : Reading} {read : Reader α} {name key : String}
  {aliases : List String} {default : α}

@[simp] theorem isNamed_optional :
    (optional name read aliases).isNamed key = (key == name || aliases.contains key) := rfl

@[simp] theorem isNamed_defaulted :
    (defaulted name read default aliases).isNamed key = (key == name || aliases.contains key) := rfl

@[simp] theorem isNamed_required :
    (required name read aliases).isNamed key = (key == name || aliases.contains key) := rfl

@[simp] theorem own_ofFields_nil : field.own (Node.ofFields []) = [] := rfl

@[simp] theorem own_ofFields_cons (document : Json) (rest : List (String × Json)) :
    field.own (Node.ofFields ((key, document) :: rest)) =
      if field.isNamed key then (some key, .ofJson document) :: field.own (Node.ofFields rest)
      else field.own (Node.ofFields rest) := by
  rw [own, Node.ofFields, List.filter_cons]
  rfl

@[simp] theorem own_ofFields_append (first second : List (String × Json)) :
    field.own (Node.ofFields (first ++ second)) =
      field.own (Node.ofFields first) ++ field.own (Node.ofFields second) := by
  simp [own, Node.ofFields_eq_map]

@[simp] theorem own_optionalField (value : Option Json) :
    field.own (Node.ofFields (Json.optionalField name value)) =
      if field.isNamed name then Node.ofFields (Json.optionalField name value) else [] := by
  cases value with
  | none => simp [Json.optionalField, Node.ofFields, own]
  | some value =>
      rw [Json.optionalField, own_ofFields_cons]
      rfl

@[simp] theorem own_optionalString (value : Option String) :
    field.own (Node.ofFields (Json.optionalString name value)) =
      if field.isNamed name then Node.ofFields (Json.optionalString name value) else [] :=
  own_optionalField _

theorem takes_optional (name : String) (aliases : List String) {encode : α → Json}
    (reads : ∀ value, read reading (.ofJson (encode value)) = .ok value)
    (notNull : ∀ value, encode value ≠ .null) (value : Option α) :
    (Field.optional name read aliases).Takes reading
      (Node.ofFields (Json.optionalField name (value.map encode))) value := by
  cases value with
  | none => exact .leftOut rfl
  | some value =>
      have present : Node.ofJson (encode value) ≠ .null := Node.ofJson_ne_null (notNull value)
      have wanted : Reader.optional read reading (.ofJson (encode value)) = .ok (some value) := by
        rw [Reader.optional_of_ne_null present, reads value]
        rfl
      exact .written wanted

@[simp] theorem takes_optionalString (value : Option String) :
    (Field.optional name .string aliases).Takes reading
      (Node.ofFields (Json.optionalString name value)) value :=
  takes_optional name aliases (fun _ => rfl) (fun _ => Json.noConfusion) value

theorem takes_required {document : Json} {value : α}
    (reads : read reading (.ofJson document) = .ok value) :
    (Field.required name read aliases).Takes reading [(some key, .ofJson document)] value :=
  .written reads

theorem takes_defaulted {document : Json} {value : α}
    (reads : read reading (.ofJson document) = .ok value) :
    (Field.defaulted name read default aliases).Takes reading [(some key, .ofJson document)]
      value :=
  .written reads

end Field

namespace Record

theorem passable_ofFields (reading : Reading) (fields : List Field)
    (written : List (String × Json)) : Passable reading fields (Node.ofFields written) := by
  rw [Node.ofFields_eq_map, Passable, List.forall_mem_map]
  exact fun entry _ => ⟨rfl, fun _ => Node.skip_ofJson reading entry.2⟩

/-- A record reads its values from what was written of it. -/
theorem read_ofJson {fields : List Field} {reading inner : Reading}
    {written : List (String × Json)} (apart : fields.Pairwise Field.Apart)
    (entered : reading.enter = .ok inner) (values : Values fields)
    (takes : TakesAll inner (Node.ofFields written) fields values) :
    Record.read fields reading (.ofJson (.object written)) = .ok values := by
  have read := (ofObject_ok_iff apart).mpr ⟨takes, passable_ofFields inner fields written⟩
  simp [Record.read, Node.ofJson, entered, read, bind, Except.bind]

theorem reader_ofJson {α : Type} {fields : List Field} {build : Values fields → α}
    {reading inner : Reading} {written : List (String × Json)} {value : α}
    (apart : fields.Pairwise Field.Apart) (entered : reading.enter = .ok inner)
    (values : Values fields) (built : build values = value)
    (takes : TakesAll inner (Node.ofFields written) fields values) :
    reader fields build reading (.ofJson (.object written)) = .ok value := by
  rw [reader, read_ofJson apart entered values takes, Except.map, built]

end Record

end Audience
