import RecordQuery.Text.Utf8
/-!
# Bytes of texts

The bytes of a text are decoded as its characters, and to their end
(`decodeUtf8_toUTF8`). The state of the decoder is an offset, so what has been
decoded is said as the beginning of the text that takes so many bytes.
-/

namespace RecordQuery

/-- The next character is the one behind those that take up the bytes before. -/
theorem utf8DecodeChar?_append (done rest : List Char) (c : Char) :
    (done ++ c :: rest).utf8Encode.utf8DecodeChar? done.utf8Encode.size = some c := by
  have hdrop : (done ++ c :: rest).utf8Encode.extract done.utf8Encode.size
      (done ++ c :: rest).utf8Encode.size = [c].utf8Encode ++ rest.utf8Encode := by
    rw [List.utf8Encode_append, ByteArray.extract_append_eq_right rfl ByteArray.size_append,
      List.utf8Encode_cons]
  rw [ByteArray.utf8DecodeChar?_eq_utf8DecodeChar?_extract, hdrop,
    List.utf8DecodeChar?_utf8Encode_singleton_append]

theorem size_utf8Encode_append_singleton (done : List Char) (c : Char) :
    (done ++ [c]).utf8Encode.size = done.utf8Encode.size + c.utf8Size := by
  rw [List.utf8Encode_append, ByteArray.size_append, List.utf8Encode_singleton]
  simp

/-- **Decoding goes through a text character by character.** -/
theorem decodeUtf8From_append (done rest : List Char) :
    decodeUtf8From (done ++ rest).utf8Encode done.utf8Encode.size done.reverse =
      (done ++ rest, true) := by
  induction rest generalizing done with
  | nil => rw [List.append_nil, decodeUtf8From, if_neg (Nat.lt_irrefl _), List.reverse_reverse]
  | cons c rest ih =>
    have hmore : done.utf8Encode.size < (done ++ c :: rest).utf8Encode.size := by
      have := c.utf8Size_pos
      have hsize := size_utf8Encode_append_singleton done c
      rw [List.append_cons, List.utf8Encode_append, ByteArray.size_append]
      omega
    have hrest := ih (done ++ [c])
    rw [← List.append_cons, List.reverse_append, List.reverse_singleton, List.singleton_append,
      size_utf8Encode_append_singleton] at hrest
    rw [decodeUtf8From, if_pos hmore, utf8DecodeChar?_append]
    exact hrest

/-- **The bytes of a text are decoded as the text.** -/
theorem decodeUtf8_toUTF8 (s : String) : decodeUtf8 s.toUTF8 = (s.toList, true) := by
  have h := decodeUtf8From_append [] s.toList
  rw [List.nil_append, String.utf8Encode_toList] at h
  exact h

/-- Bytes that are decoded to their end, behind those of some characters, are the bytes of
what is decoded. -/
theorem eq_utf8Encode_of_decodeUtf8From {done cs : List Char} {rest : ByteArray}
    (h : decodeUtf8From (done.utf8Encode ++ rest) done.utf8Encode.size done.reverse = (cs, true)) :
    done.utf8Encode ++ rest = cs.utf8Encode := by
  induction hn : rest.size using Nat.strongRecOn generalizing done rest with
  | ind n ih =>
    have hrest : (done.utf8Encode ++ rest).extract done.utf8Encode.size
        (done.utf8Encode ++ rest).size = rest :=
      ByteArray.extract_append_eq_right rfl ByteArray.size_append
    rw [decodeUtf8From] at h
    split at h
    · split at h
      · next c hc =>
        rw [ByteArray.utf8DecodeChar?_eq_utf8DecodeChar?_extract, hrest] at hc
        obtain ⟨more, rfl⟩ := ByteArray.exists_of_utf8DecodeChar?_eq_some hc
        rw [← List.utf8Encode_singleton] at h hn ⊢
        have hsize : more.size < n := by
          have hc := c.utf8Size_pos
          rw [← hn, ByteArray.size_append, List.utf8Encode_singleton]
          simpa using hc
        rw [← ByteArray.append_assoc, ← List.utf8Encode_append,
          ← size_utf8Encode_append_singleton] at h
        rw [← ByteArray.append_assoc, ← List.utf8Encode_append]
        refine ih more.size hsize ?_ rfl
        rwa [List.reverse_append, List.reverse_singleton, List.singleton_append]
      · cases h
    · next hend =>
      obtain ⟨rfl, -⟩ := Prod.mk.inj h
      have hempty : rest = ByteArray.empty := by
        rw [ByteArray.size_append] at hend
        exact ByteArray.size_eq_zero_iff.1 (by omega)
      rw [hempty, List.reverse_reverse, ByteArray.append_empty]

/-- **Bytes that are decoded to their end are the bytes of a text.** -/
theorem eq_toUTF8_of_decodeUtf8 {bytes : ByteArray} {cs : List Char}
    (h : decodeUtf8 bytes = (cs, true)) : bytes = (String.ofList cs).toUTF8 := by
  have hfrom : decodeUtf8From (([] : List Char).utf8Encode ++ bytes)
      ([] : List Char).utf8Encode.size [] = (cs, true) := by
    rwa [List.utf8Encode_nil, ByteArray.empty_append]
  calc bytes = ([] : List Char).utf8Encode ++ bytes := by
        rw [List.utf8Encode_nil, ByteArray.empty_append]
    _ = cs.utf8Encode := eq_utf8Encode_of_decodeUtf8From hfrom
    _ = (String.ofList cs).toList.utf8Encode := by rw [String.toList_ofList]
    _ = (String.ofList cs).toUTF8 := String.utf8Encode_toList

end RecordQuery
