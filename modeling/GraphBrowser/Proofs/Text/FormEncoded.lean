import GraphBrowser.Proofs.Text.Utf8
import GraphBrowser.Text.FormEncoded

/-!
# Fields survive a query

## Main definitions

* `FormEncoded.isWritten` — the characters that names and values are written with

## Main statements

* `FormEncoded.isWritten_of_mem_encode` — no encoded text has a character that ends a field
* `FormEncoded.decode_encode` — **a text that is encoded is read back as it was**
* `FormEncoded.fields_encode` — **so is a field**
-/

namespace GraphBrowser.FormEncoded

open GraphBrowser Utf8

/-- Whether names and values are written with a character. -/
def isWritten (c : Char) : Bool :=
  c.toNat < 0x80 && (isPlain (byte c.toNat) || c == '+' || c == '%')

theorem toNat_lt_of_isWritten {c : Char} (h : isWritten c = true) : c.toNat < 0x80 := by
  rw [isWritten, Bool.and_eq_true, decide_eq_true_eq] at h
  exact h.1

/-! ### Digits and bytes -/

/-- The two hexadecimal digits of a byte are read back. -/
theorem hexValue?_hexDigit {n : Nat} (h : n < 16) :
    isWritten (hexDigit n) = true ∧ hexValue? (byte (hexDigit n).toNat) = some n := by
  have hdigits : ∀ m : Fin 16, isWritten (hexDigit m) = true ∧
      hexValue? (byte (hexDigit m).toNat) = some m.val := by decide
  exact hdigits ⟨n, h⟩

/-- What stands for itself is a character below U+0080, and neither a space nor a sign that stands
for something else. -/
theorem toNat_of_isPlain {b : UInt8} (h : isPlain b = true) :
    b.toNat < 0x80 ∧ b.toNat ≠ 0x25 ∧ b.toNat ≠ 0x2B := by
  simp only [isPlain, Bool.or_eq_true, Bool.and_eq_true, decide_eq_true_eq, beq_iff_eq] at h
  omega

/-- A character below U+0080 has the number from which it is made. -/
theorem toNat_ofNat {n : Nat} (h : n < 0x80) : (Char.ofNat n).toNat = n := by
  rw [Char.ofNat, dif_pos (Or.inl (by omega))]
  rfl

/-- A byte is written with characters for names and values. -/
theorem isWritten_of_mem_encodeByte {b : UInt8} {c : Char} (h : c ∈ encodeByte b) :
    isWritten c = true := by
  have hlt : b.toNat < 256 := UInt8.toNat_lt_size b
  rw [encodeByte] at h
  by_cases hplain : isPlain b = true
  · have hascii := (toNat_of_isPlain hplain).1
    rw [if_pos hplain, List.mem_singleton] at h
    rw [h, isWritten, toNat_ofNat hascii, byte_toNat, hplain]
    simpa using hascii
  · rw [if_neg hplain] at h
    by_cases hspace : b.toNat = 0x20
    · rw [if_pos hspace, List.mem_singleton] at h
      rw [h]
      rfl
    · rw [if_neg hspace] at h
      simp only [List.mem_cons, List.not_mem_nil, or_false] at h
      rcases h with rfl | rfl | rfl
      · rfl
      · exact (hexValue?_hexDigit (by omega)).1
      · exact (hexValue?_hexDigit (by omega)).1

/-- **A text is written with characters for names and values**, whatever it is. -/
theorem isWritten_of_mem_encode {cs : List Char} {c : Char} (h : c ∈ encode cs) :
    isWritten c = true := by
  rw [encode] at h
  generalize Utf8.encode cs = bs at h
  induction bs with
  | nil => cases h
  | cons b bs ih =>
      rcases List.mem_append.mp h with hfirst | hrest
      · exact isWritten_of_mem_encodeByte hfirst
      · exact ih hrest

/-- A text of characters that stand for themselves is written as it is. -/
theorem encode_of_isPlain {cs : List Char}
    (h : ∀ c ∈ cs, c.toNat < 0x80 ∧ isPlain (byte c.toNat) = true) : encode cs = cs := by
  rw [encode, Utf8.encode_of_ascii fun c hmem => (h c hmem).1]
  induction cs with
  | nil => rfl
  | cons c cs ih =>
      obtain ⟨⟨hsmall, hplain⟩, hrest⟩ := List.forall_mem_cons.mp h
      rw [List.map_cons, encodeBytes, ih hrest, encodeByte, if_pos hplain,
        toNat_byte (by omega), Char.ofNat_toNat]
      rfl

/-- The decimal digits of a number are written as they are. -/
@[simp] theorem encode_toString (n : Nat) : encode (toString n).toList = (toString n).toList := by
  refine encode_of_isPlain fun c hmem => ?_
  have hdigits : (toString n).toList = Nat.toDigits 10 n := Nat.toList_repr
  rw [hdigits] at hmem
  obtain ⟨hlow, hhigh⟩ :=
    Char.isDigit_iff_toNat.mp (Nat.isDigit_of_mem_toDigits (by decide) (by decide) hmem)
  have hlow' : 0x30 ≤ c.toNat := hlow
  have hhigh' : c.toNat ≤ 0x39 := hhigh
  refine ⟨by omega, ?_⟩
  rw [isPlain, toNat_byte (by omega)]
  simp [hlow', hhigh']

/-! ### Reading back -/

/-- A byte that is no percent sign is read by itself. -/
theorem decodeBytes_cons_of_ne {b : UInt8} (h : b.toNat ≠ 0x25) (bs : List UInt8) :
    decodeBytes (b :: bs) = (if b.toNat = 0x2B then 0x20 else b) :: decodeBytes bs := by
  match bs with
  | [] => rfl
  | [_] => rfl
  | _ :: _ :: _ => rw [decodeBytes, if_neg h]

/-- A percent sign is read together with two digits. -/
theorem decodeBytes_escape {b h l : UInt8} {high low : Nat} (hsign : b.toNat = 0x25)
    (hhigh : hexValue? h = some high) (hlow : hexValue? l = some low) (bs : List UInt8) :
    decodeBytes (b :: h :: l :: bs) = UInt8.ofNat (high * 16 + low) :: decodeBytes bs := by
  rw [decodeBytes, if_pos hsign, hhigh, hlow]

/-- **A byte that is written is read back**, whatever follows. -/
theorem decodeBytes_encodeByte_append (b : UInt8) (rest : List UInt8) :
    decodeBytes (Utf8.encode (encodeByte b) ++ rest) = b :: decodeBytes rest := by
  have hlt : b.toNat < 256 := UInt8.toNat_lt_size b
  have hascii : ∀ c ∈ encodeByte b, c.toNat < 0x80 :=
    fun c hmem => toNat_lt_of_isWritten (isWritten_of_mem_encodeByte hmem)
  rw [Utf8.encode_of_ascii hascii, encodeByte]
  by_cases hplain : isPlain b = true
  · obtain ⟨hsmall, hpercent, hplus⟩ := toNat_of_isPlain hplain
    rw [if_pos hplain, List.map_singleton, toNat_ofNat hsmall, byte_toNat, List.singleton_append,
      decodeBytes_cons_of_ne hpercent, if_neg hplus]
  · rw [if_neg hplain]
    by_cases hspace : b.toNat = 0x20
    · have hb : b = 0x20 := UInt8.toNat_inj.mp hspace
      rw [if_pos hspace, hb]
      exact decodeBytes_cons_of_ne (by decide) rest
    · have hhigh := (hexValue?_hexDigit (show b.toNat / 16 < 16 by omega)).2
      have hlow := (hexValue?_hexDigit (show b.toNat % 16 < 16 by omega)).2
      have hb : b.toNat / 16 * 16 + b.toNat % 16 = b.toNat := Nat.div_add_mod' _ _
      rw [if_neg hspace]
      show decodeBytes (byte '%'.toNat :: byte _ :: byte _ :: rest) = _
      rw [decodeBytes_escape rfl hhigh hlow, hb]
      exact congrArg (· :: _) UInt8.ofNat_toNat

/-- Bytes that are written are read back. -/
theorem decodeBytes_encodeBytes (bs : List UInt8) :
    decodeBytes (Utf8.encode (encodeBytes bs)) = bs := by
  induction bs with
  | nil => rfl
  | cons b bs ih => rw [encodeBytes, Utf8.encode_append, decodeBytes_encodeByte_append, ih]

/-- **A text that is encoded is read back as it was.** -/
@[simp] theorem decode_encode (cs : List Char) : decode (Utf8.encode (encode cs)) = cs := by
  rw [decode, encode, decodeBytes_encodeBytes, Utf8.decode_encode]

/-! ### Fields -/

/-- Bytes without a separator are one part. -/
theorem splitAt_of_not_mem {separator : UInt8} {bs : List UInt8} (h : separator ∉ bs) :
    splitAt separator bs = [bs] := by
  induction bs with
  | nil => rfl
  | cons b bs ih =>
      obtain ⟨hfirst, hrest⟩ := not_or.mp fun hmem => h (List.mem_cons.mpr hmem)
      rw [splitAt, if_neg (Ne.symm hfirst), ih hrest]

/-- **Neither a name nor a value has a byte that ends it.** -/
theorem toNat_ne_of_mem_encode (separator : Char) (hseparator : isWritten separator = false)
    {cs : List Char} {b : UInt8} (h : b ∈ Utf8.encode (encode cs)) :
    b.toNat ≠ separator.toNat := by
  have hwritten : ∀ c ∈ encode cs, isWritten c = true := fun c => isWritten_of_mem_encode
  rw [Utf8.encode_of_ascii fun c hmem => toNat_lt_of_isWritten (hwritten c hmem)] at h
  obtain ⟨c, hmem, rfl⟩ := List.mem_map.mp h
  have hsmall := toNat_lt_of_isWritten (hwritten c hmem)
  rw [toNat_byte (by omega)]
  intro heq
  have hsame : c = separator := by rw [← Char.ofNat_toNat c, heq, Char.ofNat_toNat]
  rw [← hsame, hwritten c hmem] at hseparator
  cases hseparator

/-- **A field that is written is read back as it was.** -/
theorem fields_encode (name value : List Char) :
    fields (encode name ++ '=' :: encode value) = [(name, value)] := by
  have hname : ∀ b ∈ Utf8.encode (encode name), (b.toNat != 0x3D) = true :=
    fun b hmem => bne_iff_ne.mpr (toNat_ne_of_mem_encode '=' rfl hmem)
  have hbytes : Utf8.encode (encode name ++ '=' :: encode value) =
      Utf8.encode (encode name) ++ 0x3D :: Utf8.encode (encode value) :=
    Utf8.encode_append _ _
  have hamp : (0x26 : UInt8) ∉ Utf8.encode (encode name) ++ 0x3D :: Utf8.encode (encode value) := by
    intro hmem
    rcases List.mem_append.mp hmem with hmem | hmem
    · exact toNat_ne_of_mem_encode '&' rfl hmem rfl
    · rcases List.mem_cons.mp hmem with heq | hmem
      · cases heq
      · exact toNat_ne_of_mem_encode '&' rfl hmem rfl
  have hfield : field (Utf8.encode (encode name) ++ 0x3D :: Utf8.encode (encode value)) =
      (name, value) := by
    rw [field, List.takeWhile_append_of_pos hname, List.dropWhile_append_of_pos hname]
    simp
  rw [fields, hbytes, splitAt_of_not_mem hamp]
  simp [hfield]

end GraphBrowser.FormEncoded
