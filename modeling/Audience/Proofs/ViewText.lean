import Audience.Proofs.Assembly
import Audience.Proofs.Json.Written
import Audience.Proofs.SortedMaps

namespace Audience

/-! The text of a view tells the view.

A view is written as an object with a field for each name.  The reader keeps fields of one name
apart, and who puts them into a map keeps the last one alone; nothing is lost there because no name
stands twice in what is assembled.
-/

namespace View

variable {view other : View} {name : String}

/-- The fields of an object tell a view when each name stands once, in the order of the view, with
its items. -/
structure ToldBy (view : View) (fields : List (String × Json)) : Prop where
  names : fields.map Prod.fst = view.names
  distinct : (fields.map Prod.fst).Nodup
  items : ∀ name document, (name, document) ∈ fields ↔
    ∃ items, view.get? name = some items ∧ document = .strings items
  /-- As a map of their names they are the same fields. -/
  kept : (SortedMap.ofList fields).entries.Perm fields
  get? : ∀ name, (SortedMap.ofList fields).get? name = (view.get? name).map Json.strings

/-- The fields that a view is written with. -/
def fields (view : View) : List (String × Json) :=
  view.entries.map fun entry => (entry.1, .strings entry.2)

theorem toJson_eq (view : View) : view.toJson = .object view.fields := rfl

theorem fits_toJson (view : View) : view.toJson.Fits 2 := by
  rw [toJson_eq, Json.fits_object, fields]
  intro field member
  obtain ⟨entry, _, rfl⟩ := List.mem_map.mp member
  exact Json.fits_strings entry.2

/-- The text of a view is read as the document it was written from. -/
theorem parse_text (view : View) : Json.parse view.toJson.text = .ok view.toJson := by
  have fits := view.fits_toJson
  have admits : (Reading.text 0).Admits view.toJson.height := by
    have shallow := fits.2
    rw [Reading.admits_text, Reading.depthLimit]
    omega
  rw [Json.parse, Reader.decodeText_text _ fits.1]
  exact Node.readJson_ofJson view.toJson admits

theorem strings_injective : Function.Injective Json.strings := by
  intro first second same
  have string : Function.Injective Json.string := fun _ _ equal => Json.string.inj equal
  exact List.map_injective_iff.mpr string (Json.array.inj same)

theorem fields_injective : Function.Injective fields := by
  intro first second same
  have field : Function.Injective (Prod.map (@id String) Json.strings) :=
    Function.injective_id.prodMap strings_injective
  exact congrArg View.mk (List.map_injective_iff.mpr field same)

theorem text_eq_iff : other.toJson.text = view.toJson.text ↔ other = view := by
  constructor
  · intro sameText
    have sameDocument : other.toJson = view.toJson := by
      apply Except.ok.inj
      rw [← other.parse_text, ← view.parse_text, sameText]
    exact fields_injective (Json.object.inj sameDocument)
  · rintro rfl
    rfl

theorem map_fst_fields (view : View) : view.fields.map Prod.fst = view.names := by
  rw [fields, List.map_map]
  rfl

theorem mem_fields_iff (distinct : view.names.Nodup) {document : Json} :
    (name, document) ∈ view.fields ↔
      ∃ items, view.get? name = some items ∧ document = .strings items := by
  simp only [get?_eq_some_iff distinct, fields, List.mem_map, Prod.mk.injEq]
  constructor
  · rintro ⟨⟨_, items⟩, member, rfl, rfl⟩
    exact ⟨items, member, rfl⟩
  · rintro ⟨items, member, rfl⟩
    exact ⟨(name, items), member, rfl, rfl⟩

theorem toldBy_fields (distinct : view.names.Nodup) : view.ToldBy view.fields := by
  have fieldsDistinct : (view.fields.map Prod.fst).Nodup := by
    rwa [map_fst_fields]
  -- No name stands twice, so the map keeps every field.
  have kept := SortedMap.perm_ofList fieldsDistinct
  refine ⟨view.map_fst_fields, fieldsDistinct, fun name document => mem_fields_iff distinct, kept,
    fun name => ?_⟩
  ext document
  rw [← SortedMap.mem_entries_iff, kept.mem_iff, mem_fields_iff distinct]
  simp [eq_comm]

end View

namespace ContentTree

/-- What a caller sees can be told from its text, and two texts are the same only where two callers
see the same. -/
theorem parse_assemble (tree : ContentTree) (caller : Caller) :
    (∃ fields, Json.parse (tree.assemble caller).toJson.text = .ok (.object fields) ∧
      (tree.assemble caller).ToldBy fields) ∧
    ∀ (other : ContentTree) (otherCaller : Caller),
      (other.assemble otherCaller).toJson.text = (tree.assemble caller).toJson.text ↔
        other.assemble otherCaller = tree.assemble caller := by
  have told := View.toldBy_fields (tree.distinct_assemble caller)
  constructor
  · exact ⟨_, (tree.assemble caller).parse_text, told⟩
  · intro other otherCaller
    exact View.text_eq_iff

end ContentTree

end Audience
