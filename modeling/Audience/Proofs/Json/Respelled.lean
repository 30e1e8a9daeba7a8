import Mathlib.Data.List.Forall2
import Audience.Proofs.Json.Written

namespace Audience

/-! Records that are spelled in another way and read the same.

The fields of a record may stand in another order and under other names of theirs, fields that it
does not know may stand among them, and the value of a field may itself be spelled in another way.
Each field takes its value from the entries with its names, so it takes the same value; and what is
added can be passed over.
-/

/-- How a field of a record may be spelled: all its names, and what may be written for its value. -/
structure Spelling where
  names : List String
  respells : Node → Node → Prop

namespace Spelling

/-- Only the name of the field may change. -/
def named (names : List String) : Spelling := ⟨names, fun _ _ => False⟩

/-- No name of one field is a name of the other. -/
def Apart (first second : Spelling) : Prop := ∀ name ∈ first.names, name ∉ second.names

instance : DecidableRel Apart := fun first second =>
  inferInstanceAs (Decidable (∀ name ∈ first.names, name ∉ second.names))

variable {spellings : List Spelling} {first second spelling : Spelling} {name : String}

theorem eq_of_mem_names (apart : spellings.Pairwise Apart) (firstMember : first ∈ spellings)
    (secondMember : second ∈ spellings) (firstNamed : name ∈ first.names)
    (secondNamed : name ∈ second.names) : first = second := by
  induction spellings with
  | nil => contradiction
  | cons head rest ih =>
      obtain ⟨headApart, restApart⟩ := List.pairwise_cons.mp apart
      rcases List.mem_cons.mp firstMember with rfl | firstLater <;>
        rcases List.mem_cons.mp secondMember with rfl | secondLater
      · rfl
      · exact absurd secondNamed (headApart second secondLater name firstNamed)
      · exact absurd firstNamed (headApart first firstLater name secondNamed)
      · exact ih restApart firstLater secondLater

/-- The spelling of a field: the names are those of the field, and a value that is spelled in
another way is read as one that counts as the same. -/
structure Suits (spelling : Spelling) (reading : Reading) (field : Field)
    (alike : field.type → field.type → Prop) : Prop where
  names : field.names = spelling.names
  reads : ∀ node other value, spelling.respells node other → field.read reading node = .ok value →
    ∃ same, field.read reading other = .ok same ∧ alike value same

variable {reading : Reading} {field : Field} {alike : field.type → field.type → Prop}

theorem suits_named {names : List String} (same : field.names = names) :
    (named names).Suits reading field Eq :=
  ⟨same, fun _ _ _ => False.elim⟩

theorem suits_optional {α : Type} {read : Reader α} {name : String} {aliases : List String}
    {respells : Node → Node → Prop}
    (notNull : ∀ node other, respells node other → node ≠ .null ∧ other ≠ .null)
    (reads : ∀ node other value, respells node other → read reading node = .ok value →
      read reading other = .ok value) :
    Suits ⟨name :: aliases, respells⟩ reading (.optional name read aliases) Eq where
  names := rfl
  reads := by
    intro node other value respelled readsNode
    obtain ⟨present, otherPresent⟩ := notNull node other respelled
    have readsNode : Reader.optional read reading node = .ok value := readsNode
    rw [Reader.optional_of_ne_null present] at readsNode
    obtain ⟨found, readsFound, rfl⟩ := Except.map_eq_ok_iff.mp readsNode
    refine ⟨some found, ?_, rfl⟩
    show Reader.optional read reading other = .ok (some found)
    rw [Reader.optional_of_ne_null otherPresent, reads node other found respelled readsFound]
    rfl

theorem Suits.isNamed_iff (suits : spelling.Suits reading field alike) :
    field.isNamed name = true ↔ name ∈ spelling.names := by
  rw [Field.isNamed_iff, suits.names]

end Spelling

namespace Record

/-- A step from the fields of a record to fields that say the same.  What may be added is told by
`extra`. -/
inductive Respelled (spellings : List Spelling) (extra : Node → Prop) : Entries → Entries → Prop
  | permute {entries others : Entries} (permutation : entries.Perm others) :
      Respelled spellings extra entries others
  | rename {before after : Entries} {spelling : Spelling} {old new : String} {node : Node}
      (known : spelling ∈ spellings) (oldName : old ∈ spelling.names)
      (newName : new ∈ spelling.names) :
      Respelled spellings extra (before ++ (some old, node) :: after)
        (before ++ (some new, node) :: after)
  | insert {before after : Entries} {name : String} {node : Node}
      (unknown : ∀ spelling ∈ spellings, name ∉ spelling.names) (passes : extra node) :
      Respelled spellings extra (before ++ after) (before ++ (some name, node) :: after)
  | inside {before after : Entries} {spelling : Spelling} {name : String} {node other : Node}
      (known : spelling ∈ spellings) (isName : name ∈ spelling.names)
      (respells : spelling.respells node other) :
      Respelled spellings extra (before ++ (some name, node) :: after)
        (before ++ (some name, other) :: after)

/-- A step in a record that is written as an object. -/
inductive RespelledNode (spellings : List Spelling) (extra : Node → Prop) : Node → Node → Prop
  | object {entries others : Entries} (respelled : Respelled spellings extra entries others) :
      RespelledNode spellings extra (.object entries true) (.object others true)

end Record

namespace Field

variable {field : Field} {reading : Reading} {entries others before after : Entries}
  {entry other : Option String × Node} {value : field.type}
  {alike : field.type → field.type → Prop}

theorem own_middle (before after : Entries) (entry : Option String × Node) :
    field.own (before ++ entry :: after) =
      field.own before ++ (if field.isEntry entry then [entry] else []) ++ field.own after := by
  cases isEntry : field.isEntry entry <;> simp [own, isEntry]

theorem Takes.perm (takes : field.Takes reading (field.own entries) value)
    (permutation : entries.Perm others) : field.Takes reading (field.own others) value := by
  have owned : (field.own entries).Perm (field.own others) := permutation.filter field.isEntry
  rcases takes_iff.mp takes with ⟨entry, only, reads⟩ | ⟨none, absent⟩
  · rw [only, List.singleton_perm] at owned
    rw [← owned]
    exact .written reads
  · rw [none, List.nil_perm] at owned
    rw [owned]
    exact .leftOut absent

/-- One entry counts for another where both belong to a field or neither does, and the field reads
the value of both alike. -/
theorem Takes.replace (takes : field.Takes reading (field.own (before ++ entry :: after)) value)
    (reflexive : ∀ value, alike value value) (same : field.isEntry entry = field.isEntry other)
    (reads : field.isEntry entry = true → ∀ value, field.read reading entry.2 = .ok value →
      ∃ same, field.read reading other.2 = .ok same ∧ alike value same) :
    ∃ same, field.Takes reading (field.own (before ++ other :: after)) same ∧ alike value same := by
  rw [own_middle] at takes
  simp only [own_middle, ← same]
  cases isEntry : field.isEntry entry with
  | false =>
      simp only [isEntry] at takes
      exact ⟨value, takes, reflexive value⟩
  | true =>
      simp only [isEntry, if_true] at takes
      rcases takes_iff.mp takes with ⟨only, single, readsOnly⟩ | ⟨none, -⟩
      · -- The entry is the only one of the field.
        obtain ⟨noneBefore, noneAfter, rfl⟩ :
            field.own before = [] ∧ field.own after = [] ∧ entry = only := by
          have lengths := congrArg List.length single
          simp only [List.length_append, List.length_singleton] at lengths
          have noneBefore := List.eq_nil_of_length_eq_zero
            (show (field.own before).length = 0 by omega)
          have noneAfter := List.eq_nil_of_length_eq_zero
            (show (field.own after).length = 0 by omega)
          rw [noneBefore, noneAfter] at single
          exact ⟨noneBefore, noneAfter, (List.cons.inj single).1⟩
        obtain ⟨same, readsOther, alike⟩ := reads isEntry value readsOnly
        rw [noneBefore, noneAfter]
        exact ⟨same, .written readsOther, alike⟩
      · simp at none

end Field

namespace Record

variable {spellings : List Spelling} {extra : Node → Prop} {entries others : Entries}
  {reading inner : Reading} {spelling : Spelling}

theorem Respelled.takes {field : Field} {alike : field.type → field.type → Prop}
    {value : field.type} (respelled : Respelled spellings extra entries others)
    (takes : field.Takes reading (field.own entries) value)
    (suits : spelling.Suits reading field alike) (reflexive : ∀ value, alike value value)
    (apart : spellings.Pairwise Spelling.Apart) (member : spelling ∈ spellings) :
    ∃ same, field.Takes reading (field.own others) same ∧ alike value same := by
  cases respelled with
  | permute permutation => exact ⟨value, takes.perm permutation, reflexive value⟩
  | @rename before after known old new node isKnown oldName newName =>
      refine takes.replace reflexive ?_ fun _ value reads => ⟨value, reads, reflexive value⟩
      show field.isNamed old = field.isNamed new
      rw [Bool.eq_iff_iff, suits.isNamed_iff, suits.isNamed_iff]
      constructor
      · intro named
        rwa [Spelling.eq_of_mem_names apart member isKnown named oldName]
      · intro named
        rwa [Spelling.eq_of_mem_names apart member isKnown named newName]
  | @insert before after name node unknown passes =>
      have foreign : field.isNamed name = false := by
        rw [Bool.eq_false_iff, Ne, suits.isNamed_iff]
        exact unknown spelling member
      have notEntry : field.isEntry (some name, node) = false := foreign
      refine ⟨value, ?_, reflexive value⟩
      rw [Field.own_middle, notEntry]
      simpa [Field.own] using takes
  | @inside before after known name node other isKnown isName respells =>
      refine takes.replace reflexive rfl fun isEntry value reads => ?_
      have named := suits.isNamed_iff.mp isEntry
      rw [Spelling.eq_of_mem_names apart isKnown member isName named] at respells
      exact suits.reads node other value respells reads

/-- What is true of each entry remains so if it is true of what is added and does not depend on
which name of a field is used nor on how its value is spelled. -/
theorem Respelled.forall_mem {good : Option String × Node → Prop}
    (respelled : Respelled spellings extra entries others)
    (added : ∀ name node, (∀ spelling ∈ spellings, name ∉ spelling.names) → extra node →
      good (some name, node))
    (renamed : ∀ spelling ∈ spellings, ∀ old ∈ spelling.names, ∀ new ∈ spelling.names, ∀ node,
      good (some old, node) → good (some new, node))
    (within : ∀ spelling ∈ spellings, ∀ name ∈ spelling.names, ∀ node other,
      spelling.respells node other → good (some name, node) → good (some name, other))
    (each : ∀ entry ∈ entries, good entry) : ∀ entry ∈ others, good entry := by
  cases respelled with
  | permute permutation => exact fun entry member => each entry (permutation.mem_iff.mpr member)
  | @rename before after spelling old new node known oldName newName =>
      simp only [List.forall_mem_append, List.forall_mem_cons] at each ⊢
      exact ⟨each.1, renamed spelling known old oldName new newName node each.2.1, each.2.2⟩
  | @insert before after name node unknown passes =>
      simp only [List.forall_mem_append, List.forall_mem_cons] at each ⊢
      exact ⟨each.1, added name node unknown passes, each.2⟩
  | @inside before after spelling name node other known isName respells =>
      simp only [List.forall_mem_append, List.forall_mem_cons] at each ⊢
      exact ⟨each.1, within spelling known name isName node other respells each.2.1, each.2.2⟩

theorem Respelled.takesAll {fields : List Field} {values : Values fields} {own : List Spelling}
    (respelled : Respelled spellings extra entries others)
    (apart : spellings.Pairwise Spelling.Apart) (among : own ⊆ spellings)
    (suits : List.Forall₂ (fun field spelling => spelling.Suits reading field Eq) fields own)
    (all : TakesAll reading entries fields values) : TakesAll reading others fields values := by
  induction suits with
  | nil => trivial
  | cons here _ ih =>
      obtain ⟨value, values⟩ := values
      obtain ⟨member, later⟩ := List.cons_subset.mp among
      obtain ⟨_, takes, rfl⟩ := respelled.takes all.1 here (fun _ => rfl) apart member
      exact ⟨takes, ih later all.2⟩

theorem Respelled.passable {fields : List Field}
    (respelled : Respelled spellings extra entries others)
    (names : fields.map Field.names = spellings.map Spelling.names)
    (passes : ∀ node, extra node → node.skip reading = .ok ())
    (passable : Passable reading fields entries) : Passable reading fields others := by
  -- A known field is never passed over, under whatever name it stands.
  have taken : ∀ spelling ∈ spellings, ∀ name ∈ spelling.names, ∀ node : Node,
      ¬∀ field ∈ fields, field.isEntry (some name, node) = false := by
    intro spelling member name isName node none
    have listed : spelling.names ∈ fields.map Field.names := names ▸ List.mem_map_of_mem member
    obtain ⟨field, fieldMember, sameNames⟩ := List.mem_map.mp listed
    have isNamed : field.isNamed name = true := Field.isNamed_iff.mpr (sameNames ▸ isName)
    exact Bool.false_ne_true ((none field fieldMember).symm.trans isNamed)
  refine respelled.forall_mem ?_ ?_ ?_ passable
  · exact fun name node _ isExtra => ⟨rfl, fun _ => passes node isExtra⟩
  · exact fun spelling member _ _ new newName node _ =>
      ⟨rfl, fun none => absurd none (taken spelling member new newName node)⟩
  · exact fun spelling member name isName _ other _ _ =>
      ⟨rfl, fun none => absurd none (taken spelling member name isName other)⟩

theorem reader_object_iff {α : Type} {fields : List Field} {build : Values fields → α} {value : α}
    (apart : fields.Pairwise Field.Apart) :
    reader fields build reading (.object entries true) = .ok value ↔
      ∃ inner values, reading.enter = .ok inner ∧ TakesAll inner entries fields values ∧
        Passable inner fields entries ∧ build values = value := by
  simp only [reader, Record.read, Except.map_eq_ok_iff, Except.bind_eq_ok_iff]
  constructor
  · rintro ⟨values, ⟨inner, entered, filled⟩, built⟩
    obtain ⟨takes, passable⟩ := (ofObject_ok_iff apart).mp filled
    exact ⟨inner, values, entered, takes, passable, built⟩
  · rintro ⟨inner, values, entered, takes, passable, built⟩
    exact ⟨values, ⟨inner, entered, (ofObject_ok_iff apart).mpr ⟨takes, passable⟩⟩, built⟩

theorem RespelledNode.reader {α : Type} {fields : List Field} {build : Values fields → α}
    {node other : Node} {value : α} (respelled : RespelledNode spellings extra node other)
    (entered : reading.enter = .ok inner) (fieldsApart : fields.Pairwise Field.Apart)
    (apart : spellings.Pairwise Spelling.Apart)
    (suits : List.Forall₂ (fun field spelling => spelling.Suits inner field Eq) fields spellings)
    (passes : ∀ node, extra node → node.skip inner = .ok ())
    (read : Record.reader fields build reading node = .ok value) :
    Record.reader fields build reading other = .ok value := by
  obtain ⟨respelled⟩ := respelled
  rw [reader_object_iff fieldsApart] at read ⊢
  obtain ⟨inner', values, entered', takes, passable, built⟩ := read
  cases entered.symm.trans entered'
  have names : fields.map Field.names = spellings.map Spelling.names := by
    rw [← List.forall₂_eq_eq_eq, List.forall₂_map_left_iff, List.forall₂_map_right_iff]
    exact suits.imp fun _ _ here => here.names
  exact ⟨inner, values, entered, respelled.takesAll apart (List.Subset.refl _) suits takes,
    respelled.passable names passes passable, built⟩

theorem RespelledNode.ne_null {node other : Node}
    (respelled : RespelledNode spellings extra node other) : node ≠ .null ∧ other ≠ .null := by
  obtain ⟨_⟩ := respelled
  exact ⟨nofun, nofun⟩

end Record

/-- In a record of which only the names may change, a field of such a record is read as before. -/
theorem Spelling.suits_record {α : Type} {fields : List Field} {build : Record.Values fields → α}
    {reading inner : Reading} {spellings : List Spelling} {extra : Node → Prop} {name : String}
    {aliases : List String} (spelled : spellings = fields.map fun field => named field.names)
    (entered : reading.enter = .ok inner) (apart : fields.Pairwise Field.Apart)
    (passes : ∀ node, extra node → node.skip inner = .ok ()) :
    Suits ⟨name :: aliases, Record.RespelledNode spellings extra⟩ reading
      (.optional name (Record.reader fields build) aliases) Eq := by
  subst spelled
  have suits : List.Forall₂ (fun field spelling => Suits spelling inner field Eq) fields
      (fields.map fun field => named field.names) :=
    List.forall₂_map_right_iff.mpr (List.forall₂_same.mpr fun _ _ => suits_named rfl)
  have namesApart : (fields.map fun field => Spelling.named field.names).Pairwise Apart := by
    refine List.pairwise_map.mpr (apart.imp fun fieldsApart name isName otherName => ?_)
    exact Bool.false_ne_true
      ((fieldsApart name isName).symm.trans (Field.isNamed_iff.mpr otherName))
  refine suits_optional (fun _ _ respelled => respelled.ne_null) ?_
  intro node other value respelled read
  exact respelled.reader entered apart namesApart suits passes read

/-- A value that can be read as JSON. -/
def Node.Reads (reading : Reading) (node : Node) : Prop :=
  ∃ document, node.readJson reading = .ok document

theorem Node.exists_readFields_iff {reading : Reading} {entries : Entries} :
    (∃ fields, readFields reading entries = .ok fields) ↔
      ∀ entry ∈ entries, entry.1.isSome ∧ entry.2.Reads reading := by
  induction entries with
  | nil => simp [readFields]
  | cons entry rest ih =>
      obtain ⟨key, node⟩ := entry
      rw [List.forall_mem_cons, ← ih]
      cases key with
      | none => simp [readFields]
      | some key => simp [readFields, Except.bind_eq_ok_iff, Reads]

theorem Node.reads_object_iff {reading : Reading} {entries : Entries} :
    (object entries true).Reads reading ↔ ∃ inner, reading.enter = .ok inner ∧
      ∀ entry ∈ entries, entry.1.isSome ∧ entry.2.Reads inner := by
  simp only [← exists_readFields_iff]
  simp [Reads, readJson, Except.bind_eq_ok_iff]

theorem Record.RespelledNode.reads {spellings : List Spelling} {extra : Node → Prop}
    {reading inner : Reading} {node other : Node}
    (respelled : RespelledNode spellings extra node other) (entered : reading.enter = .ok inner)
    (added : ∀ node, extra node → node.Reads inner)
    (within : ∀ spelling ∈ spellings, ∀ node other, spelling.respells node other →
      node.Reads inner → other.Reads inner)
    (reads : node.Reads reading) : other.Reads reading := by
  obtain ⟨respelled⟩ := respelled
  rw [Node.reads_object_iff] at reads ⊢
  obtain ⟨inner', entered', each⟩ := reads
  cases entered.symm.trans entered'
  refine ⟨inner, entered, respelled.forall_mem ?_ ?_ ?_ each⟩
  · exact fun _ node _ isExtra => ⟨rfl, added node isExtra⟩
  · exact fun _ _ _ _ _ _ _ good => ⟨rfl, good.2⟩
  · exact fun spelling member _ _ node other respells good =>
      ⟨rfl, within spelling member node other respells good.2⟩

end Audience
