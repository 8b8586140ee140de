import Mathlib.Data.List.Basic

/-! # UTF-8 text as bytes

A sequence of bytes is valid when it encodes a sequence of characters. A prefix
of valid text is valid exactly when it ends between two characters, which the
byte that follows it tells.
-/

namespace RdmnetBroker.Library.Utf8

set_option autoImplicit false

def encode (chars : List Char) : List UInt8 := chars.flatMap String.utf8EncodeChar

def Valid (s : List UInt8) : Prop := ∃ chars, s = encode chars

variable {s rest : List UInt8} {c c' : Char} {chars : List Char}

theorem encode_cons (c : Char) (chars : List Char) :
    encode (c :: chars) = String.utf8EncodeChar c ++ encode chars := rfl

theorem valid_nil : Valid [] := ⟨[], rfl⟩

theorem Valid.cons (c : Char) (h : Valid s) : Valid (String.utf8EncodeChar c ++ s) := by
  obtain ⟨chars, rfl⟩ := h
  exact ⟨c :: chars, rfl⟩

/-- A character is read back from the front of a text. -/
theorem encodeChar_append_inj (h : String.utf8EncodeChar c ++ s = String.utf8EncodeChar c' ++ rest) :
    c = c' ∧ s = rest := by
  have hDecode := congrArg (fun l => ByteArray.utf8DecodeChar? (List.toByteArray l) 0) h
  simp only [List.toByteArray_append, ByteArray.utf8DecodeChar?_utf8EncodeChar_append] at hDecode
  cases hDecode
  exact ⟨rfl, List.append_cancel_left h⟩

/-- What follows valid text in valid text is valid. -/
theorem Valid.of_append {prior : List UInt8} (hPrior : Valid prior) (h : Valid (prior ++ rest)) :
    Valid rest := by
  obtain ⟨chars, rfl⟩ := hPrior
  induction chars with
  | nil => exact h
  | cons c chars ih =>
    obtain ⟨all, hAll⟩ := h
    rw [encode_cons, List.append_assoc] at hAll
    cases all with
    | nil => exact absurd (List.append_eq_nil_iff.mp hAll).1 String.utf8EncodeChar_ne_nil
    | cons c' all => exact ih ⟨all, (encodeChar_append_inj hAll).2⟩

/-- In the encoding of a character only the first byte can start one. -/
theorem isFirst_getElem?_iff {b : UInt8} {n : Nat} (hLength : n < (String.utf8EncodeChar c).length)
    (h : (String.utf8EncodeChar c ++ s)[n]? = some b) : b.IsUTF8FirstByte ↔ n = 0 := by
  rw [List.getElem?_append_left hLength, List.getElem?_eq_getElem hLength] at h
  cases h
  exact UInt8.isUTF8FirstByte_getElem_utf8EncodeChar

theorem length_encodeChar_pos (c : Char) : 0 < (String.utf8EncodeChar c).length :=
  List.length_pos_iff.mpr String.utf8EncodeChar_ne_nil

theorem Valid.isFirst_zero {b : UInt8} (h : Valid s) (hByte : s[0]? = some b) : b.IsUTF8FirstByte := by
  obtain ⟨chars, rfl⟩ := h
  cases chars with
  | nil => cases hByte
  | cons c chars => exact (isFirst_getElem?_iff (length_encodeChar_pos c) hByte).mpr rfl

/-- A prefix that is followed by a first byte, or by nothing, is valid. -/
theorem Valid.take {n : Nat} (h : Valid s) (hByte : ∀ b, s[n]? = some b → b.IsUTF8FirstByte) :
    Valid (s.take n) := by
  obtain ⟨chars, rfl⟩ := h
  induction chars generalizing n with
  | nil =>
    rw [show encode [] = [] from rfl, List.take_nil]
    exact valid_nil
  | cons c chars ih =>
    rw [encode_cons] at hByte ⊢
    rcases Nat.lt_or_ge n (String.utf8EncodeChar c).length with hInside | hOutside
    · have hLength : n < (String.utf8EncodeChar c ++ encode chars).length := by
        rw [List.length_append]
        omega
      have hZero := (isFirst_getElem?_iff hInside (List.getElem?_eq_getElem hLength)).mp
        (hByte _ (List.getElem?_eq_getElem hLength))
      rw [hZero, List.take_zero]
      exact valid_nil
    · rw [List.take_append, List.take_of_length_le hOutside]
      refine (ih fun b hb => hByte b ?_).cons c
      rw [List.getElem?_append_right hOutside, hb]

theorem valid_take_iff {n : Nat} (h : Valid s) :
    Valid (s.take n) ↔ ∀ b, s[n]? = some b → b.IsUTF8FirstByte := by
  constructor
  · intro hTake b hByte
    have hRest : Valid (s.drop n) := hTake.of_append (by rwa [List.take_append_drop])
    exact hRest.isFirst_zero (by rwa [List.getElem?_drop, Nat.add_zero])
  · exact h.take

end RdmnetBroker.Library.Utf8
