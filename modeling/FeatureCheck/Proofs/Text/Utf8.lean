import FeatureCheck.Text.Utf8

/-!
# Encoded texts

The bytes of a text are read as its characters: `glyphs_bytesOf`. Texts are in the order of their
bytes: `bytesOf_lt_bytesOf`.
-/

namespace FeatureCheck.Text

set_option autoImplicit false

theorem toList_loop (bytes : ByteArray) (index : Nat) (read : List UInt8) :
    ByteArray.toList.loop bytes index read = read.reverse ++ bytes.data.toList.drop index := by
  fun_induction ByteArray.toList.loop bytes index read with
  | case1 index read hlt ih =>
    rw [ih, List.reverse_cons, List.append_assoc, List.singleton_append]
    congr 1
    have hindex : index < bytes.data.toList.length := hlt
    rw [List.drop_eq_getElem_cons hindex]
    congr 1
    simp [ByteArray.get!, hlt]
  | case2 index read hge =>
    have hlength : bytes.data.toList.length ≤ index := Nat.le_of_not_lt hge
    rw [List.drop_of_length_le hlength, List.append_nil]

theorem bytesOf_eq_flatMap (text : String) :
    bytesOf text = text.toList.flatMap String.utf8EncodeChar := by
  have hbytes : text.toUTF8 = (text.toList.flatMap String.utf8EncodeChar).toByteArray :=
    String.utf8Encode_toList.symm
  rw [bytesOf, hbytes, ByteArray.toList, toList_loop]
  simp

/-! ## One character -/

variable {value missing low high : Nat} {rest : List UInt8}

theorem run_last {byte : Nat} (hbyte : byte < 256) (hlow : low ≤ byte) (hhigh : byte ≤ high) :
    utf8.run (.within value 1 low high) (UInt8.ofNat byte :: rest) =
      some (Char.ofNat (value * 64 + (byte - 0x80))) :: utf8.run .ready rest := by
  have hval : (UInt8.ofNat byte).toNat = byte := UInt8.toNat_ofNat_of_lt' hbyte
  have hstep : Utf8State.step (.within value 1 low high) (UInt8.ofNat byte) =
      ([some (Char.ofNat (value * 64 + (byte - 0x80)))], .ready) := by
    simp [Utf8State.step, hval, hlow, hhigh]
  simp only [Transducer.run, utf8, hstep, List.singleton_append]

theorem run_more {byte : Nat} (hbyte : byte < 256) (hlow : low ≤ byte) (hhigh : byte ≤ high)
    (hmissing : 1 < missing) :
    utf8.run (.within value missing low high) (UInt8.ofNat byte :: rest) =
      utf8.run (.within (value * 64 + (byte - 0x80)) (missing - 1) 0x80 0xBF) rest := by
  have hval : (UInt8.ofNat byte).toNat = byte := UInt8.toNat_ofNat_of_lt' hbyte
  have hstep : Utf8State.step (.within value missing low high) (UInt8.ofNat byte) =
      ([], .within (value * 64 + (byte - 0x80)) (missing - 1) 0x80 0xBF) := by
    simp [Utf8State.step, hval, hlow, hhigh, hmissing]
  simp only [Transducer.run, utf8, hstep, List.nil_append]

theorem run_first {lead : Nat} (hlead : lead < 256) {value missing low high : Nat}
    (hstart : Utf8State.start lead = ([], .within value missing low high)) :
    utf8.run .ready (UInt8.ofNat lead :: rest) =
      utf8.run (.within value missing low high) rest := by
  have hval : (UInt8.ofNat lead).toNat = lead := UInt8.toNat_ofNat_of_lt' hlead
  simp only [Transducer.run, utf8, Utf8State.step, hval, hstart, List.nil_append]

/-- The byte that follows the first is bounded further where a shorter sequence would do, or the
value would be no character. -/
theorem start_of_three {lead : Nat} (hlow : 0xE0 ≤ lead) (hhigh : lead ≤ 0xEF) :
    Utf8State.start lead = ([], .within (lead - 0xE0) 2
      (if lead = 0xE0 then 0xA0 else 0x80) (if lead = 0xED then 0x9F else 0xBF)) := by
  unfold Utf8State.start
  rw [if_neg (by omega), if_neg (by omega)]
  by_cases hfirst : lead = 0xE0
  · subst hfirst
    rfl
  by_cases hsurrogate : lead = 0xED
  · subst hsurrogate
    rfl
  rw [if_neg hfirst, if_neg hsurrogate, if_pos (by omega), if_neg hfirst, if_neg hsurrogate]

theorem start_of_four {lead : Nat} (hlow : 0xF0 ≤ lead) (hhigh : lead ≤ 0xF4) :
    Utf8State.start lead = ([], .within (lead - 0xF0) 3
      (if lead = 0xF0 then 0x90 else 0x80) (if lead = 0xF4 then 0x8F else 0xBF)) := by
  unfold Utf8State.start
  rw [if_neg (by omega), if_neg (by omega), if_neg (by omega), if_neg (by omega),
    if_neg (by omega)]
  by_cases hfirst : lead = 0xF0
  · subst hfirst
    rfl
  by_cases hlast : lead = 0xF4
  · subst hlast
    rfl
  rw [if_neg hfirst, if_neg hlast, if_pos (by omega), if_neg hfirst, if_neg hlast]

theorem run_utf8EncodeChar (c : Char) (rest : List UInt8) :
    utf8.run .ready (String.utf8EncodeChar c ++ rest) = some c :: utf8.run .ready rest := by
  have hvalid : c.val.toNat < 0xD800 ∨ 0xDFFF < c.val.toNat ∧ c.val.toNat < 0x110000 := c.valid
  have hchar : Char.ofNat c.val.toNat = c := Char.ofNat_toNat c
  unfold String.utf8EncodeChar
  generalize c.val.toNat = value at hvalid hchar
  simp only
  split
  · rename_i hone
    have hval : (UInt8.ofNat value).toNat = value :=
      UInt8.toNat_ofNat_of_lt' (Nat.lt_of_le_of_lt hone (by decide))
    have hstart : Utf8State.start value = ([some c], .ready) := by
      rw [Utf8State.start, if_pos (by omega), hchar]
    simp only [List.singleton_append, Transducer.run, utf8, Utf8State.step, hval, hstart]
  split
  · rename_i htwo
    have hstart : Utf8State.start (value / 64 % 32 + 192) =
        ([], .within (value / 64 % 32 + 192 - 0xC0) 1 0x80 0xBF) := by
      rw [Utf8State.start, if_neg (by omega), if_pos (by omega)]
    rw [List.cons_append, run_first (by omega) hstart, List.singleton_append,
      run_last (by omega) (by omega) (by omega)]
    have hvalue : (value / 64 % 32 + 192 - 0xC0) * 64 + (value % 64 + 128 - 0x80) = value := by
      omega
    rw [hvalue, hchar]
  split
  · rename_i hthree
    rw [List.cons_append, run_first (by omega) (start_of_three (by omega) (by omega)),
      List.cons_append, run_more (by omega) (by split <;> omega) (by split <;> omega) (by omega),
      List.singleton_append, run_last (by omega) (by omega) (by omega)]
    have hvalue : ((value / 4096 % 16 + 224 - 0xE0) * 64 + (value / 64 % 64 + 128 - 0x80)) * 64 +
        (value % 64 + 128 - 0x80) = value := by omega
    rw [hvalue, hchar]
  · rw [List.cons_append, run_first (by omega) (start_of_four (by omega) (by omega)),
      List.cons_append, run_more (by omega) (by split <;> omega) (by split <;> omega) (by omega),
      List.cons_append, run_more (by omega) (by omega) (by omega) (by omega),
      List.singleton_append, run_last (by omega) (by omega) (by omega)]
    have hvalue : (((value / 262144 % 8 + 240 - 0xF0) * 64 +
        (value / 4096 % 64 + 128 - 0x80)) * 64 + (value / 64 % 64 + 128 - 0x80)) * 64 +
        (value % 64 + 128 - 0x80) = value := by omega
    rw [hvalue, hchar]

theorem glyphs_bytesOf (text : String) : glyphs (bytesOf text) = text.toList.map some := by
  rw [bytesOf_eq_flatMap, glyphs]
  induction text.toList with
  | nil => rfl
  | cons c chars ih => rw [List.flatMap_cons, run_utf8EncodeChar, ih, List.map_cons]

/-! ## The order of bytes -/

theorem cons_ofNat_lt_cons_ofNat_iff {byte other : Nat} (hbyte : byte < 256) (hother : other < 256)
    {rest others : List UInt8} : UInt8.ofNat byte :: rest < UInt8.ofNat other :: others ↔
      byte < other ∨ byte = other ∧ rest < others := by
  have hlt : UInt8.ofNat byte < UInt8.ofNat other ↔ byte < other := by
    rw [UInt8.lt_iff_toNat_lt, UInt8.toNat_ofNat_of_lt' hbyte, UInt8.toNat_ofNat_of_lt' hother]
  have heq : UInt8.ofNat byte = UInt8.ofNat other ↔ byte = other := by
    rw [← UInt8.toNat_inj, UInt8.toNat_ofNat_of_lt' hbyte, UInt8.toNat_ofNat_of_lt' hother]
  rw [List.cons_lt_cons_iff, hlt, heq]

/-- A longer sequence starts with a greater byte; between two of one length the first byte that
differs decides. -/
theorem utf8EncodeChar_append_lt {c d : Char} (h : c < d) (rest others : List UInt8) :
    String.utf8EncodeChar c ++ rest < String.utf8EncodeChar d ++ others := by
  have hlt : c.val.toNat < d.val.toNat := UInt32.lt_iff_toNat_lt.mp h
  have hbound : d.val.toNat < 0x110000 := by
    rcases d.valid with hlow | hhigh
    · exact Nat.lt_trans hlow (by decide)
    · exact hhigh.2
  unfold String.utf8EncodeChar
  generalize c.val.toNat = value at hlt
  generalize d.val.toNat = other at hlt hbound
  have hdigits : value / 262144 < other / 262144 ∨ value / 262144 = other / 262144 ∧
      (value / 4096 < other / 4096 ∨ value / 4096 = other / 4096 ∧
        value / 64 ≤ other / 64) := by omega
  simp only
  repeat' split
  all_goals
    simp (disch := omega) only [List.cons_append, List.nil_append, cons_ofNat_lt_cons_ofNat_iff]
    rcases hdigits with hfirst | ⟨hfirst, hsecond | ⟨hsecond, hthird⟩⟩ <;> omega

theorem utf8EncodeChar_ne_nil (c : Char) : String.utf8EncodeChar c ≠ [] := by
  unfold String.utf8EncodeChar
  simp only
  repeat' split
  all_goals simp

theorem bytesOf_lt_bytesOf {left right : String} (h : left < right) :
    bytesOf left < bytesOf right := by
  rw [String.lt_iff] at h
  rw [bytesOf_eq_flatMap, bytesOf_eq_flatMap]
  generalize left.toList = before at h
  generalize right.toList = after at h
  induction h with
  | nil =>
    rename_i c chars
    rw [List.flatMap_nil, List.flatMap_cons]
    cases hbytes : String.utf8EncodeChar c with
    | nil => exact absurd hbytes (utf8EncodeChar_ne_nil c)
    | cons byte bytes => exact .nil
  | cons _ ih =>
    rw [List.flatMap_cons, List.flatMap_cons]
    exact List.append_left_lt ih
  | rel hlt =>
    rw [List.flatMap_cons, List.flatMap_cons]
    exact utf8EncodeChar_append_lt hlt _ _

end FeatureCheck.Text
