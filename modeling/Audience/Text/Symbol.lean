namespace Audience

/-! Text whose bytes need not all be characters. -/

/-- A character, or nothing for bytes that encode none. -/
abbrev Symbol := Option Char

namespace Symbol

def ofString (text : String) : List Symbol :=
  text.toList.map some

theorem ofString_ofList (chars : List Char) : ofString (String.ofList chars) = chars.map some := by
  rw [ofString, String.toList_ofList]

/-- The symbols of encoded bytes from an index on.  A byte that starts no character is one symbol
and the reading goes on with the next byte. -/
def ofBytesFrom (bytes : ByteArray) (index : Nat) : List Symbol :=
  if index < bytes.size then
    match bytes.utf8DecodeChar? index with
    | some c => some c :: ofBytesFrom bytes (index + c.utf8Size)
    | none => none :: ofBytesFrom bytes (index + 1)
  else []
termination_by bytes.size - index
decreasing_by
  · have := c.utf8Size_pos
    omega
  · omega

def ofBytes (bytes : ByteArray) : List Symbol :=
  ofBytesFrom bytes 0

/-- Behind encoded characters the reading goes on with the characters encoded next. -/
theorem ofBytesFrom_utf8Encode (front rest : List Char) :
    ofBytesFrom (front ++ rest).utf8Encode front.utf8Encode.size = rest.map some := by
  induction rest generalizing front with
  | nil =>
      rw [List.append_nil, ofBytesFrom, if_neg (Nat.lt_irrefl _)]
      rfl
  | cons c rest ih =>
      have within : front.utf8Encode.size < (front ++ c :: rest).utf8Encode.size := by
        have nonempty := c.utf8Size_pos
        rw [List.utf8Encode_append, List.utf8Encode_cons, List.utf8Encode_singleton,
          ByteArray.size_append, ByteArray.size_append, List.size_toByteArray,
          String.length_utf8EncodeChar]
        omega
      have decoded :
          (front ++ c :: rest).utf8Encode.utf8DecodeChar? front.utf8Encode.size = some c := by
        rw [ByteArray.utf8DecodeChar?_eq_utf8DecodeChar?_extract, List.utf8Encode_append,
          ByteArray.extract_append_eq_right rfl (by simp)]
        exact List.utf8DecodeChar?_utf8Encode_cons
      have next := ih (front ++ [c])
      rw [List.append_assoc] at next
      rw [ofBytesFrom, if_pos within, decoded, List.map_cons, ← next]
      simp [List.utf8Encode_append, List.utf8Encode_singleton]

/-- Reading the bytes of a text gives its characters. -/
theorem ofBytes_toUTF8 (text : String) : ofBytes text.toUTF8 = ofString text := by
  have whole := ofBytesFrom_utf8Encode [] text.toList
  simpa [ofBytes, ofString] using whole

end Symbol

end Audience
