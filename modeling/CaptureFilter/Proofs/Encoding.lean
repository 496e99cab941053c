import CaptureFilter.Text.Utf8

/-!
# UTF-8 read back

A character is written in UTF-8 as one to four bytes: the first tells how many follow and holds its
highest bits, and each of the others holds six more. The machine that reads UTF-8 with replacement
gives back every text from its bytes and replaces nothing.
Spec guidance: `SPEC_FULL.md` §6 (`from_file`).
-/

namespace CaptureFilter.Text.Utf8

/-- The bytes of a text in UTF-8. -/
def encode (s : List Char) : List UInt8 := s.flatMap String.utf8EncodeChar

/-! ### First bytes -/

/-- The first byte of a character of two bytes. -/
theorem start_two {b : Nat} (hlow : 2 ≤ b) (hb : b < 32) :
    start (b + 0xC0) = ([], some { bits := b, owed := 1 }) := by
  rw [start, if_neg (by omega), if_pos (by omega), Nat.add_sub_cancel]

/-- The first byte of a character of three bytes. The byte after it may not leave the character too
small for three bytes, nor make it a surrogate. -/
theorem start_three {b : Nat} (hb : b < 16) :
    start (b + 0xE0) =
      ([], some ⟨b, 2, if b = 0 then 0xA0 else 0x80, if b = 0xD then 0x9F else 0xBF⟩) := by
  revert b
  decide

/-- The first byte of a character of four bytes. The byte after it may not leave the character too
small for four bytes, nor make it greater than all characters. -/
theorem start_four {b : Nat} (hb : b < 5) :
    start (b + 0xF0) =
      ([], some ⟨b, 3, if b = 0 then 0x90 else 0x80, if b = 4 then 0x8F else 0xBF⟩) := by
  revert b
  decide

/-! ### Further bytes -/

variable {begun : Begun} {b n : Nat} {rest : List UInt8}

private theorem toNat_ofNat (h : n < 256) : (UInt8.ofNat n).toNat = n :=
  UInt8.toNat_ofNat_of_lt' h

/-- The first byte of a character starts it. -/
theorem decodeFrom_first (hb : b < 256) (h : start b = ([], some begun)) :
    decodeFrom none (UInt8.ofNat b :: rest) = decodeFrom (some begun) rest := by
  rw [decodeFrom, toNat_ofNat hb, step, h, List.nil_append]

/-- A further byte that is not the last adds its six bits. -/
theorem decodeFrom_further (howed : 1 < begun.owed) (hb : b < 64) (hlow : begun.low ≤ b + 0x80)
    (hhigh : b + 0x80 ≤ begun.high) :
    decodeFrom (some begun) (UInt8.ofNat (b + 0x80) :: rest) =
      decodeFrom (some { bits := begun.bits * 64 + b, owed := begun.owed - 1 }) rest := by
  rw [decodeFrom, toNat_ofNat (by omega), step, if_pos ⟨hlow, hhigh⟩]
  simp [Nat.not_le.mpr howed]

/-- The last byte adds its six bits and completes the character. -/
theorem decodeFrom_last (howed : begun.owed = 1) (hb : b < 64) (hlow : begun.low ≤ b + 0x80)
    (hhigh : b + 0x80 ≤ begun.high) :
    decodeFrom (some begun) (UInt8.ofNat (b + 0x80) :: rest) =
      Char.ofNat (begun.bits * 64 + b) :: decodeFrom none rest := by
  rw [decodeFrom, toNat_ofNat (by omega), step, if_pos ⟨hlow, hhigh⟩]
  simp [howed]

/-! ### Characters and texts -/

/-- A character of one byte is read. -/
theorem decodeFrom_one (h : n < 0x80) :
    decodeFrom none (UInt8.ofNat n :: rest) = Char.ofNat n :: decodeFrom none rest := by
  rw [decodeFrom, toNat_ofNat (by omega), step, start_of_lt h, List.singleton_append]

/-- A character of two bytes is read. -/
theorem decodeFrom_two (hlow : 0x80 ≤ n) (h : n < 0x800) :
    decodeFrom none (UInt8.ofNat (n / 64 % 32 + 0xC0) :: UInt8.ofNat (n % 64 + 0x80) :: rest) =
      Char.ofNat n :: decodeFrom none rest := by
  have hn : n / 64 % 32 * 64 + n % 64 = n := by omega
  rw [decodeFrom_first (by omega) (start_two (by omega) (by omega)),
    decodeFrom_last rfl (by omega) (by simp) (by simp; omega), hn]

/-- A character of three bytes is read, unless it is a surrogate. -/
theorem decodeFrom_three (hlow : 0x800 ≤ n) (h : n < 0x10000)
    (hs : n < 0xD800 ∨ 0xDFFF < n) :
    decodeFrom none (UInt8.ofNat (n / 4096 % 16 + 0xE0) :: UInt8.ofNat (n / 64 % 64 + 0x80) ::
      UInt8.ofNat (n % 64 + 0x80) :: rest) = Char.ofNat n :: decodeFrom none rest := by
  have hn : (n / 4096 % 16 * 64 + n / 64 % 64) * 64 + n % 64 = n := by omega
  rw [decodeFrom_first (by omega) (start_three (by omega)),
    decodeFrom_further (by simp) (by omega) (by grind) (by grind),
    decodeFrom_last rfl (by omega) (by simp) (by simp; omega), hn]

/-- A character of four bytes is read, unless it is greater than all characters. -/
theorem decodeFrom_four (hlow : 0x10000 ≤ n) (h : n < 0x110000) :
    decodeFrom none (UInt8.ofNat (n / 262144 % 8 + 0xF0) :: UInt8.ofNat (n / 4096 % 64 + 0x80) ::
      UInt8.ofNat (n / 64 % 64 + 0x80) :: UInt8.ofNat (n % 64 + 0x80) :: rest) =
        Char.ofNat n :: decodeFrom none rest := by
  have hn : ((n / 262144 % 8 * 64 + n / 4096 % 64) * 64 + n / 64 % 64) * 64 + n % 64 = n := by
    omega
  rw [decodeFrom_first (by omega) (start_four (by omega)),
    decodeFrom_further (by simp) (by omega) (by grind) (by grind),
    decodeFrom_further (by simp) (by omega) (by simp) (by simp; omega),
    decodeFrom_last rfl (by omega) (by simp) (by simp; omega), hn]

/-- The bytes of a character are read as that character. -/
theorem decodeFrom_utf8EncodeChar_append (c : Char) (rest : List UInt8) :
    decodeFrom none (String.utf8EncodeChar c ++ rest) = c :: decodeFrom none rest := by
  have hvalid : c.val.toNat < 0xD800 ∨ 0xDFFF < c.val.toNat ∧ c.val.toNat < 0x110000 := c.valid
  have hc : Char.ofNat c.val.toNat = c := Char.ofNat_toNat c
  rw [String.utf8EncodeChar]
  generalize c.val.toNat = n at hvalid hc ⊢
  subst hc
  split
  · next hone => exact decodeFrom_one (by omega)
  split
  · next htwo => exact decodeFrom_two (by omega) (by omega)
  split
  · next hthree => exact decodeFrom_three (by omega) (by omega) (by omega)
  · exact decodeFrom_four (by omega) (by omega)

/-- A text is read back from its bytes. -/
theorem decode_encode (s : List Char) : decode (encode s) = s := by
  induction s with
  | nil => rfl
  | cons c rest ih =>
    rw [encode, List.flatMap_cons, decode, decodeFrom_utf8EncodeChar_append]
    exact congrArg (c :: ·) ih

end CaptureFilter.Text.Utf8
