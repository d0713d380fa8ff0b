import Mathlib
import Migrator.Text.Utf8

/-! The decoder reads back what UTF-8 encoding writes: each character's bytes, read from a
decoder with no sequence open, add that character and leave no sequence open
(`foldl_push_utf8EncodeChar`), so the bytes of a text decode to the text, strictly and with
replacement alike. -/

namespace ByteArray

theorem toList_loop_eq (bs : ByteArray) (i : Nat) (r : List UInt8) :
    toList.loop bs i r = r.reverse ++ bs.data.toList.drop i := by
  fun_induction toList.loop bs i r with
  | case1 i r inside ih =>
    have inside' : i < bs.data.toList.length := by simpa using inside
    rw [ih, List.drop_eq_getElem_cons inside']
    simp [ByteArray.get!, inside]
  | case2 i r outside =>
    rw [List.drop_eq_nil_of_le (by simpa using Nat.le_of_not_lt outside)]
    simp

theorem toList_eq_data_toList (bs : ByteArray) : bs.toList = bs.data.toList := by
  simp [toList, toList_loop_eq]

end ByteArray

namespace Migrator.Text.Utf8

theorem toList_toUTF8 (s : String) : s.toUTF8.toList = s.toList.flatMap String.utf8EncodeChar := by
  rw [ByteArray.toList_eq_data_toList, String.toUTF8_eq_toByteArray, ← @String.ofList_toList s,
    String.toByteArray_ofList, String.toList_ofList, List.utf8Encode, List.data_toByteArray,
    List.toList_toArray]

namespace Decoder

/-- A decoder with no sequence open. -/
def idle (out : List Char) (replaced : Bool) : Decoder :=
  { need := 0, acc := 0, lo := 0x80, hi := 0xBF, out, replaced }

/-- A decoder in a sequence, `need` continuation bytes short, each between `lo` and `hi`. -/
def pending (need acc : Nat) (lo hi : UInt8) (out : List Char) (replaced : Bool) : Decoder :=
  { need, acc, lo, hi, out, replaced }

section Lead

variable (out : List Char) (replaced : Bool) (b : UInt8)

theorem push_one (small : b.toNat < 0x80) :
    push (idle out replaced) b = idle (Char.ofNat b.toNat :: out) replaced := by
  simp [push, start, idle, small]

theorem push_two (lo : 0xC2 ≤ b.toNat) (hi : b.toNat ≤ 0xDF) :
    push (idle out replaced) b = pending 1 (b.toNat % 0x20) 0x80 0xBF out replaced := by
  simp [push, start, idle, pending, lo, hi, show ¬ b.toNat < 0x80 by omega]

theorem push_three_e0 (lead : b.toNat = 0xE0) :
    push (idle out replaced) b = pending 2 (b.toNat % 0x10) 0xA0 0xBF out replaced := by
  simp [push, start, idle, pending, lead]

theorem push_three_ed (lead : b.toNat = 0xED) :
    push (idle out replaced) b = pending 2 (b.toNat % 0x10) 0x80 0x9F out replaced := by
  simp [push, start, idle, pending, lead]

theorem push_three (lo : 0xE1 ≤ b.toNat) (hi : b.toNat ≤ 0xEF) (other : b.toNat ≠ 0xED) :
    push (idle out replaced) b = pending 2 (b.toNat % 0x10) 0x80 0xBF out replaced := by
  simp [push, start, idle, pending, lo, hi, other, show ¬ b.toNat < 0x80 by omega,
    show ¬ b.toNat ≤ 0xDF by omega, show b.toNat ≠ 0xE0 by omega]

theorem push_four_f0 (lead : b.toNat = 0xF0) :
    push (idle out replaced) b = pending 3 (b.toNat % 0x08) 0x90 0xBF out replaced := by
  simp [push, start, idle, pending, lead]

theorem push_four_f4 (lead : b.toNat = 0xF4) :
    push (idle out replaced) b = pending 3 (b.toNat % 0x08) 0x80 0x8F out replaced := by
  simp [push, start, idle, pending, lead]

theorem push_four (lo : 0xF1 ≤ b.toNat) (hi : b.toNat ≤ 0xF3) :
    push (idle out replaced) b = pending 3 (b.toNat % 0x08) 0x80 0xBF out replaced := by
  simp [push, start, idle, pending, lo, hi, show ¬ b.toNat < 0x80 by omega,
    show ¬ b.toNat ≤ 0xDF by omega, show ¬ b.toNat ≤ 0xEF by omega, show b.toNat ≠ 0xF0 by omega,
    show b.toNat ≠ 0xF4 by omega, show b.toNat ≠ 0xE0 by omega, show b.toNat ≠ 0xED by omega]

end Lead

section Continuation

variable {acc : Nat} {lo hi b : UInt8} (out : List Char) (replaced : Bool)

/-- A continuation byte in range adds its six bits; the last one ends the character. -/
theorem push_last (fits : 0x80 ≤ b.toNat ∧ b.toNat ≤ 0xBF) :
    push (pending 1 acc 0x80 0xBF out replaced) b =
      idle (Char.ofNat (acc * 64 + b.toNat % 64) :: out) replaced := by
  simp [push, pending, idle, UInt8.le_iff_toNat_le, fits]

theorem push_more (need : Nat) (fits : lo.toNat ≤ b.toNat ∧ b.toNat ≤ hi.toNat) :
    push (pending (need + 2) acc lo hi out replaced) b =
      pending (need + 1) (acc * 64 + b.toNat % 64) 0x80 0xBF out replaced := by
  simp [push, pending, UInt8.le_iff_toNat_le, fits]

end Continuation

theorem foldl_push_utf8EncodeChar (c : Char) (out : List Char) (replaced : Bool) :
    (String.utf8EncodeChar c).foldl push (idle out replaced) = idle (c :: out) replaced := by
  unfold String.utf8EncodeChar
  dsimp only
  set v := c.val.toNat with hv
  have valid : v < 0xD800 ∨ (0xDFFF < v ∧ v < 0x110000) := c.valid
  have self : Char.ofNat v = c := Char.ofNat_toNat c
  have byte : ∀ n, n < 256 → (UInt8.ofNat n).toNat = n := fun n small => by simp; omega
  -- the four lengths of an encoding
  split_ifs with one two three
  · rw [List.foldl_cons, List.foldl_nil, push_one _ _ _ (by rw [byte v (by omega)]; omega),
      byte v (by omega), self]
  · have lead := byte (v / 64 % 32 + 192) (by omega)
    have last := byte (v % 64 + 128) (by omega)
    rw [List.foldl_cons, List.foldl_cons, List.foldl_nil, push_two _ _ _ (by omega) (by omega),
      push_last _ _ (by omega), lead, last]
    have whole : (v / 64 % 32 + 192) % 32 * 64 + (v % 64 + 128) % 64 = v := by omega
    rw [whole, self]
  · have middle := byte (v / 64 % 64 + 128) (by omega)
    have last := byte (v % 64 + 128) (by omega)
    have lead := byte (v / 4096 % 16 + 224) (by omega)
    have whole : ((v / 4096 % 16 + 224) % 16 * 64 + (v / 64 % 64 + 128) % 64) * 64 +
        (v % 64 + 128) % 64 = v := by omega
    rw [List.foldl_cons, List.foldl_cons, List.foldl_cons, List.foldl_nil]
    -- the lead byte bounds the second byte for the smallest values and below the surrogates
    by_cases e0 : v / 4096 = 0
    · rw [push_three_e0 _ _ _ (by omega), push_more _ _ _ (by simp; omega),
        push_last _ _ (by omega), lead, middle, last, whole, self]
    by_cases ed : v / 4096 = 13
    · rw [push_three_ed _ _ _ (by omega), push_more _ _ _ (by simp; omega),
        push_last _ _ (by omega), lead, middle, last, whole, self]
    · rw [push_three _ _ _ (by omega) (by omega) (by omega),
        push_more _ _ _ (by simp; omega), push_last _ _ (by omega), lead, middle, last,
        whole, self]
  · have second := byte (v / 4096 % 64 + 128) (by omega)
    have third := byte (v / 64 % 64 + 128) (by omega)
    have last := byte (v % 64 + 128) (by omega)
    have lead := byte (v / 262144 % 8 + 240) (by omega)
    have whole : (((v / 262144 % 8 + 240) % 8 * 64 + (v / 4096 % 64 + 128) % 64) * 64 +
        (v / 64 % 64 + 128) % 64) * 64 + (v % 64 + 128) % 64 = v := by omega
    rw [List.foldl_cons, List.foldl_cons, List.foldl_cons, List.foldl_cons, List.foldl_nil]
    by_cases f0 : v / 262144 = 0
    · rw [push_four_f0 _ _ _ (by omega), push_more _ _ _ (by simp; omega),
        push_more _ _ _ (by simp; omega), push_last _ _ (by omega), lead, second, third,
        last, whole, self]
    by_cases f4 : v / 262144 = 4
    · rw [push_four_f4 _ _ _ (by omega), push_more _ _ _ (by simp; omega),
        push_more _ _ _ (by simp; omega), push_last _ _ (by omega), lead, second, third,
        last, whole, self]
    · rw [push_four _ _ _ (by omega) (by omega), push_more _ _ _ (by simp; omega),
        push_more _ _ _ (by simp; omega), push_last _ _ (by omega), lead, second, third,
        last, whole, self]

/-- Reading the bytes of characters from an idle decoder adds the characters. -/
theorem foldl_push_flatMap (cs out : List Char) (replaced : Bool) :
    (cs.flatMap String.utf8EncodeChar).foldl push (idle out replaced) =
      idle (cs.reverse ++ out) replaced := by
  induction cs generalizing out with
  | nil => rfl
  | cons c cs ih =>
    rw [List.flatMap_cons, List.foldl_append, foldl_push_utf8EncodeChar, ih]
    simp

theorem run_toUTF8 (s : String) : run s.toUTF8.toList = idle s.toList.reverse false := by
  rw [run, toList_toUTF8, show ({} : Decoder) = idle [] false from rfl, foldl_push_flatMap]
  simp [finish, idle]

end Decoder

/-- A byte below 128 in an encoding is a whole character: every byte of a longer sequence is
128 or more. -/
theorem eq_of_mem_utf8EncodeChar {c : Char} {b : UInt8} (member : b ∈ String.utf8EncodeChar c)
    (small : b.toNat < 128) : b.toNat = c.toNat := by
  have byte : ∀ n, n < 256 → (UInt8.ofNat n).toNat = n := fun n small => by simp; omega
  have bound : c.toNat < 0x110000 := by
    have valid : c.toNat < 0xD800 ∨ (0xDFFF < c.toNat ∧ c.toNat < 0x110000) := c.valid
    omega
  unfold String.utf8EncodeChar at member
  dsimp only at member
  split_ifs at member with one two three <;> simp only [List.mem_cons, List.not_mem_nil,
    or_false] at member
  · subst member
    exact byte _ (by omega)
  · rcases member with rfl | rfl <;> rw [byte _ (by omega)] at small ⊢ <;> omega
  · rcases member with rfl | rfl | rfl <;> rw [byte _ (by omega)] at small ⊢ <;> omega
  · rcases member with rfl | rfl | rfl | rfl <;> rw [byte _ (by omega)] at small ⊢ <;> omega

theorem exists_char_of_mem_toUTF8 {s : String} {b : UInt8} (member : b ∈ s.toUTF8.toList)
    (small : b.toNat < 128) : ∃ c ∈ s.toList, c.toNat = b.toNat := by
  rw [toList_toUTF8, List.mem_flatMap] at member
  obtain ⟨c, inText, inBytes⟩ := member
  exact ⟨c, inText, (eq_of_mem_utf8EncodeChar inBytes small).symm⟩

theorem decodeLossy_toUTF8 (s : String) : decodeLossy s.toUTF8.toList = s := by
  rw [decodeLossy, Decoder.run_toUTF8]
  simp [Decoder.idle]

theorem decode?_toUTF8 (s : String) : decode? s.toUTF8.toList = some s := by
  rw [decode?, Decoder.run_toUTF8]
  simp [Decoder.idle]

end Migrator.Text.Utf8
