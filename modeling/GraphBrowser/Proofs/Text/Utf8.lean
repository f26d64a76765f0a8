import GraphBrowser.Text.Utf8

/-!
# Texts survive their bytes

## Main statements

* `Utf8.encode_of_ascii` — a character below U+0080 is one byte
* `Utf8.head_encodeChar` — the bytes of a character are read as this character
* `Utf8.decode_encode` — **the text of the bytes of a text is the text**
* `Utf8.bytes_inj` — different texts have different bytes

## Design notes

There is one lemma for each number of bytes that a character may have, stated for the number of the
character. What keeps overlong forms and surrogates out when bytes are read is there the range of
this number.
-/

namespace GraphBrowser.Utf8

theorem toNat_byte {n : Nat} (h : n < 256) : (byte n).toNat = n := by
  simp only [byte, UInt8.toNat_ofNat']
  omega

@[simp] theorem byte_toNat (b : UInt8) : byte b.toNat = b := UInt8.ofNat_toNat

@[simp] theorem encode_append (cs ds : List Char) : encode (cs ++ ds) = encode cs ++ encode ds := by
  induction cs with
  | nil => rfl
  | cons c cs ih => simp [ih]

/-- A character below U+0080 is one byte. -/
theorem encode_of_ascii {cs : List Char} (h : ∀ c ∈ cs, c.toNat < 0x80) :
    encode cs = cs.map fun c => byte c.toNat := by
  induction cs with
  | nil => rfl
  | cons c cs ih =>
      obtain ⟨hfirst, hrest⟩ := List.forall_mem_cons.mp h
      rw [encode_cons, ih hrest, encodeChar, if_pos hfirst]
      rfl

/-- A byte that is made from six bits continues a character. -/
theorem isContinuation_byte {n : Nat} (h : n < 64) : isContinuation (byte (0x80 + n)) = true := by
  rw [isContinuation, toNat_byte (by omega)]
  simp only [Bool.and_eq_true, decide_eq_true_eq]
  omega

/-- No character is a surrogate or beyond the last one. -/
theorem toNat_bounds (c : Char) :
    c.toNat < 0xD800 ∨ (0xDFFF < c.toNat ∧ c.toNat < 0x110000) :=
  c.valid

section

variable {n : Nat} (rest : List UInt8)

/-- One byte is read as the character with its number. -/
theorem head_one (h : n < 0x80) : head (byte n) rest = .char (Char.ofNat n) 1 := by
  simp only [head, toNat_byte (show n < 256 by omega)]
  rw [if_pos h]

/-- Two bytes are read as the character whose bits they hold. -/
theorem head_two (h : 0x80 ≤ n) (h' : n < 0x800) :
    head (byte (0xC0 + n / 64)) (byte (0x80 + n % 64) :: rest) = .char (Char.ofNat n) 2 := by
  have hcontinues : isContinuation (byte (0x80 + n % 64)) = true :=
    isContinuation_byte (by omega)
  simp only [head, hcontinues, if_true, toNat_byte (show 0xC0 + n / 64 < 256 by omega),
    toNat_byte (show 0x80 + n % 64 < 256 by omega)]
  rw [if_neg (by omega), if_neg (by omega), if_pos (by omega),
    show (0xC0 + n / 64 - 0xC0) * 64 + (0x80 + n % 64 - 0x80) = n by omega]

/-- Three bytes are read as the character whose bits they hold, unless it is a surrogate. -/
theorem head_three (h : 0x800 ≤ n) (h' : n < 0x10000) (hvalid : n < 0xD800 ∨ 0xDFFF < n) :
    head (byte (0xE0 + n / 4096)) (byte (0x80 + n / 64 % 64) :: byte (0x80 + n % 64) :: rest) =
      .char (Char.ofNat n) 3 := by
  have hlead := toNat_byte (show 0xE0 + n / 4096 < 256 by omega)
  have hmiddle := toNat_byte (show 0x80 + n / 64 % 64 < 256 by omega)
  have hlast := toNat_byte (show 0x80 + n % 64 < 256 by omega)
  have hsecond : isSecondOfThree (byte (0xE0 + n / 4096)) (byte (0x80 + n / 64 % 64)) = true := by
    rw [isSecondOfThree, isContinuation_byte (by omega), hlead, hmiddle]
    simp only [Bool.and_eq_true, Bool.or_eq_true, bne_iff_ne, decide_eq_true_eq, true_and]
    omega
  have hcontinues : isContinuation (byte (0x80 + n % 64)) = true :=
    isContinuation_byte (by omega)
  simp only [head, hsecond, hcontinues, if_true, hlead, hmiddle, hlast]
  rw [if_neg (by omega), if_neg (by omega), if_neg (by omega), if_pos (by omega),
    show (0xE0 + n / 4096 - 0xE0) * 4096 + (0x80 + n / 64 % 64 - 0x80) * 64 +
      (0x80 + n % 64 - 0x80) = n by omega]

/-- Four bytes are read as the character whose bits they hold, if there is one. -/
theorem head_four (h : 0x10000 ≤ n) (h' : n < 0x110000) :
    head (byte (0xF0 + n / 262144)) (byte (0x80 + n / 4096 % 64) :: byte (0x80 + n / 64 % 64) ::
      byte (0x80 + n % 64) :: rest) = .char (Char.ofNat n) 4 := by
  have hlead := toNat_byte (show 0xF0 + n / 262144 < 256 by omega)
  have hsecond' := toNat_byte (show 0x80 + n / 4096 % 64 < 256 by omega)
  have hthird := toNat_byte (show 0x80 + n / 64 % 64 < 256 by omega)
  have hlast := toNat_byte (show 0x80 + n % 64 < 256 by omega)
  have hsecond :
      isSecondOfFour (byte (0xF0 + n / 262144)) (byte (0x80 + n / 4096 % 64)) = true := by
    rw [isSecondOfFour, isContinuation_byte (by omega), hlead, hsecond']
    simp only [Bool.and_eq_true, Bool.or_eq_true, bne_iff_ne, decide_eq_true_eq, true_and]
    omega
  have hcontinues : isContinuation (byte (0x80 + n / 64 % 64)) = true :=
    isContinuation_byte (by omega)
  have hends : isContinuation (byte (0x80 + n % 64)) = true := isContinuation_byte (by omega)
  simp only [head, hsecond, hcontinues, hends, if_true, hlead, hsecond', hthird, hlast]
  rw [if_neg (by omega), if_neg (by omega), if_neg (by omega), if_neg (by omega),
    if_pos (by omega),
    show (0xF0 + n / 262144 - 0xF0) * 262144 + (0x80 + n / 4096 % 64 - 0x80) * 4096 +
      (0x80 + n / 64 % 64 - 0x80) * 64 + (0x80 + n % 64 - 0x80) = n by omega]

end

/-- **The bytes of a character are read as this character**, whatever follows. -/
theorem head_encodeChar (c : Char) (rest : List UInt8) :
    ∃ lead more, encodeChar c = lead :: more ∧
      head lead (more ++ rest) = .char c (more.length + 1) := by
  have hvalid := toNat_bounds c
  have hself := Char.ofNat_toNat c
  simp only [encodeChar]
  by_cases hone : c.toNat < 0x80
  · have hhead := head_one rest hone
    rw [hself] at hhead
    rw [if_pos hone]
    exact ⟨_, _, rfl, hhead⟩
  by_cases htwo : c.toNat < 0x800
  · have hhead := head_two rest (Nat.le_of_not_lt hone) htwo
    rw [hself] at hhead
    rw [if_neg hone, if_pos htwo]
    exact ⟨_, _, rfl, hhead⟩
  by_cases hthree : c.toNat < 0x10000
  · have hhead := head_three rest (Nat.le_of_not_lt htwo) hthree (by omega)
    rw [hself] at hhead
    rw [if_neg hone, if_neg htwo, if_pos hthree]
    exact ⟨_, _, rfl, hhead⟩
  · have hhead := head_four rest (Nat.le_of_not_lt hthree) (by omega)
    rw [hself] at hhead
    rw [if_neg hone, if_neg htwo, if_neg hthree]
    exact ⟨_, _, rfl, hhead⟩

/-- The bytes of a character are read off the front. -/
theorem decode_encodeChar_append (c : Char) (rest : List UInt8) :
    decode (encodeChar c ++ rest) = c :: decode rest := by
  obtain ⟨lead, more, hbytes, hhead⟩ := head_encodeChar c rest
  rw [hbytes, List.cons_append, decode, hhead]
  simp

/-- **The text of the bytes of a text is the text.** -/
@[simp] theorem decode_encode (cs : List Char) : decode (encode cs) = cs := by
  induction cs with
  | nil => simp [decode]
  | cons c cs ih => rw [encode_cons, decode_encodeChar_append, ih]

/-- **Different texts have different bytes.** -/
theorem bytes_inj {text other : String} : bytes text = bytes other ↔ text = other := by
  constructor
  · intro h
    unfold bytes at h
    rw [← String.toList_inj, ← decode_encode text.toList, h, decode_encode]
  · rintro rfl
    rfl

end GraphBrowser.Utf8
