import Audience.Text.Lines

namespace Audience

/-! Lines of bytes, and the texts they encode. -/

namespace Lines

variable {bytes line rest : List UInt8} {lines : List (List UInt8)}

/-- Bytes and the lines they are split into: a newline ends a line, together with one carriage
return directly before it, and what stands behind the last newline is a line unless it is empty. -/
inductive Splits : List UInt8 → List (List UInt8) → Prop
  | nothing : Splits [] []
  | unended {line : List UInt8} (unbroken : newline ∉ line) (nonempty : line ≠ []) :
      Splits line [line]
  | ended {line rest : List UInt8} {lines : List (List UInt8)} (unbroken : newline ∉ line)
      (noReturn : line.getLast? ≠ some carriageReturn) (later : Splits rest lines) :
      Splits (line ++ newline :: rest) (line :: lines)
  | returned {line rest : List UInt8} {lines : List (List UInt8)} (unbroken : newline ∉ line)
      (later : Splits rest lines) :
      Splits (line ++ carriageReturn :: newline :: rest) (line :: lines)

theorem splitNewlines_unended (unbroken : newline ∉ line) (nonempty : line ≠ []) :
    splitNewlines line = [line] := by
  induction line with
  | nil => contradiction
  | cons byte others ih =>
      have here : byte ≠ newline := fun same => unbroken (same ▸ List.mem_cons_self)
      cases others with
      | nil => simp [splitNewlines, here]
      | cons next more =>
          have later : newline ∉ next :: more := fun member =>
            unbroken (List.mem_cons_of_mem _ member)
          rw [splitNewlines, if_neg here, ih later (List.cons_ne_nil _ _)]

theorem splitNewlines_ended (unbroken : newline ∉ line) (rest : List UInt8) :
    splitNewlines (line ++ newline :: rest) = line :: splitNewlines rest := by
  induction line with
  | nil => simp [splitNewlines]
  | cons byte others ih =>
      have here : byte ≠ newline := fun same => unbroken (same ▸ List.mem_cons_self)
      have later : newline ∉ others := fun member => unbroken (List.mem_cons_of_mem _ member)
      rw [List.cons_append, splitNewlines, if_neg here, ih later]

theorem splitNewlines_ne_nil (nonempty : bytes ≠ []) : splitNewlines bytes ≠ [] := by
  cases bytes with
  | nil => contradiction
  | cons byte rest =>
      rw [splitNewlines]
      split
      · exact List.cons_ne_nil _ _
      · split <;> exact List.cons_ne_nil _ _

/-- A line that a newline ended, without a carriage return at its end. -/
def trimmed (line : List UInt8) : List UInt8 :=
  if line.getLast? = some carriageReturn then line.dropLast else line

theorem split_unended (unbroken : newline ∉ line) (nonempty : line ≠ []) : split line = [line] := by
  have last : line.getLast? ≠ some newline := fun same =>
    unbroken (List.mem_of_getLast? same)
  rw [split, if_neg last, splitNewlines_unended unbroken nonempty]
  rfl

theorem split_ended (unbroken : newline ∉ line) (rest : List UInt8) :
    split (line ++ newline :: rest) = trimmed line :: split rest := by
  cases rest with
  | nil =>
      simp only [split, splitNewlines_ended unbroken, splitNewlines]
      simp [trimmed]
  | cons byte others =>
      have last : (line ++ newline :: byte :: others).getLast? = (byte :: others).getLast? := by
        simp [List.getLast?_append, List.getLast?_cons]
      have more : splitNewlines (byte :: others) ≠ [] := splitNewlines_ne_nil (List.cons_ne_nil _ _)
      simp only [split, splitNewlines_ended unbroken, last]
      split
      · rfl
      · rw [List.dropLast_cons_of_ne_nil more, List.getLast?_cons_of_ne_nil more]
        rfl

theorem Splits.eq_split (splits : Splits bytes lines) : lines = split bytes := by
  induction splits with
  | nothing => rfl
  | unended unbroken nonempty => exact (split_unended unbroken nonempty).symm
  | ended unbroken noReturn _ ih => rw [split_ended unbroken, trimmed, if_neg noReturn, ih]
  | @returned line rest lines unbroken later ih =>
      have whole : newline ∉ line ++ [carriageReturn] := by
        simpa [newline, carriageReturn] using unbroken
      have parts : line ++ carriageReturn :: newline :: rest =
          (line ++ [carriageReturn]) ++ newline :: rest := by simp
      rw [parts, split_ended whole, ih]
      simp [trimmed]

theorem splits_split (bytes : List UInt8) : Splits bytes (split bytes) := by
  by_cases broken : newline ∈ bytes
  · -- The bytes in front of the first newline are a line, and those behind it are fewer.
    obtain ⟨line, rest, parts, unbroken⟩ := List.eq_append_cons_of_mem broken
    have later := splits_split rest
    subst parts
    rw [split_ended unbroken, trimmed]
    split
    next returned =>
      obtain ⟨front, whole⟩ := List.getLast?_eq_some_iff.mp returned
      subst whole
      have frontUnbroken : newline ∉ front := fun member =>
        unbroken (List.mem_append_left _ member)
      simpa using Splits.returned frontUnbroken later
    next noReturn => exact .ended unbroken noReturn later
  · by_cases nonempty : bytes = []
    · subst nonempty
      exact .nothing
    · rw [split_unended broken nonempty]
      exact .unended broken nonempty
termination_by bytes.length
decreasing_by
  simp [parts]
  omega

end Lines

namespace Symbol

variable {bytes : ByteArray} {chars : List Char}

/-- If the reading meets characters only, the bytes are these characters encoded. -/
theorem extract_of_ofBytesFrom {index : Nat} (within : index ≤ bytes.size)
    (read : ofBytesFrom bytes index = chars.map some) :
    bytes.extract index bytes.size = chars.utf8Encode := by
  induction chars generalizing index with
  | nil =>
      have atEnd : ¬index < bytes.size := fun inside => by
        rw [ofBytesFrom, if_pos inside] at read
        split at read <;> simp at read
      simp
      omega
  | cons c rest ih =>
      have inside : index < bytes.size := by
        refine Nat.lt_of_not_le fun beyond => ?_
        rw [ofBytesFrom, if_neg (Nat.not_lt.mpr beyond)] at read
        simp at read
      rw [ofBytesFrom, if_pos inside] at read
      cases decoded : bytes.utf8DecodeChar? index with
      | none => simp [decoded] at read
      | some first =>
          simp only [decoded, List.map_cons, List.cons.injEq, Option.some.injEq] at read
          obtain ⟨rfl, read⟩ := read
          -- The character is encoded at `index`, and the others directly behind it.
          have fits := ByteArray.le_size_of_utf8DecodeChar?_eq_some decoded
          have later := ih fits read
          rw [ByteArray.utf8DecodeChar?_eq_utf8DecodeChar?_extract] at decoded
          have parts := ByteArray.eq_of_utf8DecodeChar?_eq_some decoded
          rw [parts, List.utf8Encode_cons, List.utf8Encode_singleton, ← later]
          have whole : min (index + (bytes.size - index)) bytes.size = bytes.size := by omega
          simp [ByteArray.extract_extract, whole]

end Symbol

theorem Symbol.mapM_id_eq_some_iff {symbols : List Symbol} {chars : List Char} :
    symbols.mapM id = some chars ↔ symbols = chars.map some := by
  induction symbols generalizing chars with
  | nil => cases chars <;> simp
  | cons symbol rest ih =>
      cases symbol with
      | none => cases chars <;> simp
      | some c =>
          simp only [List.mapM_cons, id, Option.bind_eq_bind, Option.bind_some, Option.pure_def,
            Option.bind_eq_some_iff, ih, Option.some.injEq]
          cases chars with
          | nil => simp
          | cons first others =>
              simp only [List.cons.injEq, List.map_cons, Option.some.injEq]
              exact ⟨fun ⟨_, read, same, tail⟩ => ⟨same, tail ▸ read⟩,
                fun ⟨same, read⟩ => ⟨others, read, same, rfl⟩⟩

theorem bytesOfText_append (first second : String) :
    bytesOfText (first ++ second) = bytesOfText first ++ bytesOfText second := by
  simp [bytesOfText, String.toUTF8]

/-- The text that bytes encode is the one whose encoding they are. -/
theorem textOfBytes?_eq_some_iff {bytes : List UInt8} {text : String} :
    textOfBytes? bytes = some text ↔ bytes = bytesOfText text := by
  simp only [textOfBytes?, Option.map_eq_some_iff, Symbol.mapM_id_eq_some_iff, bytesOfText]
  constructor
  · rintro ⟨chars, read, rfl⟩
    have encoded := Symbol.extract_of_ofBytesFrom (Nat.zero_le _) read
    rw [ByteArray.extract_zero_size] at encoded
    rw [String.toUTF8, String.toByteArray_ofList, ← encoded]
  · rintro rfl
    exact ⟨text.toList, Symbol.ofBytes_toUTF8 text, String.ofList_toList⟩

/-- Bytes encode no text when they are not valid. -/
theorem textOfBytes?_eq_none_iff {bytes : List UInt8} :
    textOfBytes? bytes = none ↔ ¬(ByteArray.mk bytes.toArray).IsValidUTF8 := by
  constructor
  · rintro unreadable ⟨chars, encoded⟩
    have read : textOfBytes? bytes = some (String.ofList chars) := by
      rw [textOfBytes?_eq_some_iff, bytesOfText, String.toUTF8, String.toByteArray_ofList,
        ← encoded]
    rw [unreadable] at read
    contradiction
  · intro invalid
    cases read : textOfBytes? bytes with
    | none => rfl
    | some text =>
        rw [textOfBytes?_eq_some_iff.mp read] at invalid
        exact absurd text.isValidUTF8 invalid

end Audience
