import Audience.Json.Basic

namespace Audience

/-! The compact text of a document stays on one line.

Control characters inside strings are escaped, and nothing else that is written has any.
-/

/-- No control characters from the front of the alphabet, so none that ends a line. -/
def Inline (chars : List Char) : Prop := ∀ c ∈ chars, 0x20 ≤ c.toNat

namespace Inline

variable {c : Char} {chars others : List Char}

@[simp] theorem nil : Inline [] := nofun

@[simp] theorem cons_iff : Inline (c :: chars) ↔ 0x20 ≤ c.toNat ∧ Inline chars :=
  List.forall_mem_cons

@[simp] theorem append_iff : Inline (chars ++ others) ↔ Inline chars ∧ Inline others :=
  List.forall_mem_append

theorem le_of_mem_utf8EncodeChar {byte : UInt8} (above : 0x20 ≤ c.toNat)
    (member : byte ∈ String.utf8EncodeChar c) : 0x20 ≤ byte := by
  have bound (n : Nat) (low : 0x20 ≤ n) (high : n < 256) : 0x20 ≤ UInt8.ofNat n := by
    rw [UInt8.le_iff_toNat_le, UInt8.toNat_ofNat_of_lt' high]
    exact low
  rw [Char.toNat] at above
  -- the bytes of a longer encoding are all from `0x80` on
  simp only [String.utf8EncodeChar] at member
  repeat' split at member
  all_goals
    simp only [List.mem_cons, List.not_mem_nil, or_false] at member
  next => exact member ▸ bound _ above (by omega)
  next => rcases member with rfl | rfl <;> exact bound _ (by omega) (by omega)
  next => rcases member with rfl | rfl | rfl <;> exact bound _ (by omega) (by omega)
  next => rcases member with rfl | rfl | rfl | rfl <;> exact bound _ (by omega) (by omega)

/-- Such characters are encoded in bytes of the same kind. -/
theorem bytes (inline : Inline chars) :
    ∀ byte ∈ (String.ofList chars).toUTF8.data.toList, 0x20 ≤ byte := by
  intro byte member
  have encoded : (String.ofList chars).toUTF8.data.toList =
      chars.flatMap String.utf8EncodeChar := by
    rw [String.toUTF8, String.toByteArray_ofList, List.utf8Encode, List.data_toByteArray]
  rw [encoded] at member
  obtain ⟨c, inChars, inBytes⟩ := List.mem_flatMap.mp member
  exact le_of_mem_utf8EncodeChar (inline c inChars) inBytes

end Inline

/-- The characters that numbers are written with. -/
def numeralChars : List Char :=
  ['0', '1', '2', '3', '4', '5', '6', '7', '8', '9', '-', '+', '.', 'e']

theorem Inline.of_numeral {chars : List Char} (numeral : chars ⊆ numeralChars) : Inline chars := by
  have all : numeralChars.all (fun c => 0x20 ≤ c.toNat) = true := by decide
  intro c member
  exact of_decide_eq_true (List.all_eq_true.mp all c (numeral member))

namespace Digits

theorem chars_subset {digits : List Nat} (decimal : ∀ digit ∈ digits, digit < 10) :
    chars digits ⊆ numeralChars := by
  have all : ∀ digit < 10, toChar digit ∈ numeralChars := by decide
  intro c member
  obtain ⟨digit, inDigits, rfl⟩ := List.mem_map.mp member
  exact all digit (decimal digit inDigits)

theorem chars_ofNat_subset (n : Nat) : chars (ofNat n) ⊆ numeralChars :=
  chars_subset fun _ => lt_ten_of_mem_ofNat

end Digits

@[simp] theorem inline_decimalChars (n : Int) : Inline (decimalChars n) := by
  have digits := Inline.of_numeral (Digits.chars_ofNat_subset n.natAbs)
  rw [decimalChars]
  split <;> simp [digits]

namespace Number

variable {digits : List Nat}

theorem plainChars_subset (decimal : ∀ digit ∈ digits, digit < 10) (exponent : Int) :
    plainChars digits exponent ⊆ numeralChars := by
  have zero : '0' ∈ numeralChars := by decide
  have point : '.' ∈ numeralChars := by decide
  rw [plainChars]
  split
  next =>
    refine List.cons_subset.mpr ⟨zero, List.cons_subset.mpr ⟨point, Digits.chars_subset ?_⟩⟩
    grind
  next =>
    refine List.append_subset.mpr ⟨Digits.chars_subset ?_, List.cons_subset.mpr ⟨point, ?_⟩⟩
    · grind
    · split
      · exact Digits.chars_subset fun digit member => decimal digit (List.mem_of_mem_drop member)
      · exact Digits.chars_subset (by decide)

theorem exponentChars_subset {layout : NumberLayout} (mark : layout.exponentMark ∈ numeralChars)
    (sign : layout.signOfPositiveExponent ⊆ numeralChars)
    (decimal : ∀ digit ∈ digits, digit < 10) (exponent : Int) :
    exponentChars layout digits exponent ⊆ numeralChars := by
  have first : Digits.chars (digits.take 1) ⊆ numeralChars :=
    Digits.chars_subset fun digit member => decimal digit (List.mem_of_mem_take member)
  have others : Digits.chars (digits.drop 1) ⊆ numeralChars :=
    Digits.chars_subset fun digit member => decimal digit (List.mem_of_mem_drop member)
  have fraction : (if (digits.drop 1).isEmpty then [] else
      '.' :: Digits.chars (digits.drop 1)) ⊆ numeralChars := by
    split
    · exact List.nil_subset _
    · exact List.cons_subset.mpr ⟨by decide, others⟩
  have signed :
      (if exponent < 0 then ['-'] else layout.signOfPositiveExponent) ⊆ numeralChars := by
    split
    · decide
    · exact sign
  simp only [exponentChars, List.append_subset, List.cons_subset]
  exact ⟨⟨first, fraction⟩, mark, signed, Digits.chars_ofNat_subset _⟩

theorem lt_ten_of_mem_scientific {decimal : Decimal} {digit : Nat}
    (member : digit ∈ decimal.scientific.1) : digit < 10 := by
  have kept := List.dropWhile_subset _ (List.mem_reverse.mp member)
  exact Digits.lt_ten_of_mem_ofNat (List.mem_reverse.mp kept)

theorem chars_subset (x : Number) : x.chars .ofValues ⊆ numeralChars := by
  have magnitude : x.magnitudeChars .ofValues ⊆ numeralChars := by
    have digits : ∀ digit ∈ x.shortest.scientific.1, digit < 10 := fun _ =>
      lt_ten_of_mem_scientific
    simp only [magnitudeChars]
    split
    next => exact plainChars_subset (by decide) 0
    next =>
      split
      next => exact plainChars_subset digits _
      next => exact exponentChars_subset (by decide) (by decide) digits _
  rw [chars]
  split
  next => exact List.cons_subset.mpr ⟨by decide, magnitude⟩
  next => exact magnitude

end Number

namespace Json

theorem inline_hexChar {digit : Nat} (small : digit < 16) : 0x20 ≤ (hexChar digit).toNat := by
  have all : ∀ digit < 16, 0x20 ≤ (hexChar digit).toNat := by decide
  exact all digit small

theorem inline_escapeChar (c : Char) : Inline (escapeChar c) := by
  rw [escapeChar]
  repeat' split
  all_goals simp
  next control => exact ⟨inline_hexChar (by omega), inline_hexChar (by omega)⟩
  next plain => omega

@[simp] theorem inline_quote (text : String) : Inline (quote text) := by
  have escaped : Inline (text.toList.flatMap escapeChar) := by
    intro c member
    obtain ⟨original, _, written⟩ := List.mem_flatMap.mp member
    exact inline_escapeChar original c written
  simp [quote, escaped]

@[simp] theorem inline_realChars (x : Number) : Inline (realChars x) := by
  rw [realChars]
  split
  · exact .of_numeral x.chars_subset
  · simp

mutual

theorem inline_chars : (document : Json) → Inline document.chars
  | .null => by simp [chars]
  | .bool true => by simp [chars]
  | .bool false => by simp [chars]
  | .whole _ => by simp [chars]
  | .real _ => by simp [chars]
  | .string _ => by simp [chars]
  | .array items => by simp [chars, inline_itemsChars items]
  | .object fields => by simp [chars, inline_fieldsChars fields]

theorem inline_itemsChars : (items : List Json) → Inline (itemsChars items)
  | [] => .nil
  | [item] => inline_chars item
  | item :: next :: rest => by
      simp [itemsChars, inline_chars item, inline_itemsChars (next :: rest)]

theorem inline_fieldsChars : (fields : List (String × Json)) → Inline (fieldsChars fields)
  | [] => .nil
  | [(key, value)] => by simp [fieldsChars, inline_chars value]
  | (key, value) :: next :: rest => by
      simp [fieldsChars, inline_chars value, inline_fieldsChars (next :: rest)]

end

/-- No byte of a compact text is below the blank. -/
theorem le_of_mem_text (document : Json) :
    ∀ byte ∈ document.text.toUTF8.data.toList, 0x20 ≤ byte :=
  document.inline_chars.bytes

end Json

end Audience
