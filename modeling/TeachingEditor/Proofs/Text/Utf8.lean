import TeachingEditor.Files
import TeachingEditor.Proofs.Text.ByteOrder

/-!
# Bytes that are a text

The reader of UTF-8 accepts exactly the bytes that some text is written as, and gives
this text.

**Format.**  `IsForm` lists the forms of characters: one byte, or a first byte from
which the number of continuation bytes follows.  The second byte of some forms is
restricted, so that no character has two forms and no form lies outside the characters.

**Algorithm.**  What a character is written as is one of the forms (`isForm_encodeChar`),
and every form is what its character is written as (`IsForm.encodeChar_eq`).  The reader
takes off one form after the other (`IsForm.decodeFrom_append`).

**Results.**
* `decode_eq_ok_iff`: reading succeeds exactly on what is written for a text.
* `readText_eq_ok_iff`, `readText_eq_error_iff`: when a file is read as a text.
-/

namespace TeachingEditor
namespace Utf8

/-! ## Forms of characters -/

/-- A byte that continues a character. -/
def IsTail (b : UInt8) : Prop :=
  0x80 ≤ b.toNat ∧ b.toNat ≤ 0xBF

/-- The forms of characters, with the number of the character that each stands for. -/
inductive IsForm : List UInt8 → Nat → Prop
  | one {a : UInt8}
      (ha : a.toNat < 0x80) :
      IsForm [a] a.toNat
  | two {a b : UInt8}
      (ha : 0xC2 ≤ a.toNat ∧ a.toNat < 0xE0)
      (hb : IsTail b) :
      IsForm [a, b] (a.toNat % 32 * 64 + lowBits b)
  | three {a b c : UInt8}
      (ha : 0xE0 ≤ a.toNat ∧ a.toNat < 0xF0)
      (hb : IsTail b)
      (hlong : a.toNat = 0xE0 → 0xA0 ≤ b.toNat)
      (hsurrogate : a.toNat = 0xED → b.toNat ≤ 0x9F)
      (hc : IsTail c) :
      IsForm [a, b, c] (a.toNat % 16 * 4096 + lowBits b * 64 + lowBits c)
  | four {a b c d : UInt8}
      (ha : 0xF0 ≤ a.toNat ∧ a.toNat < 0xF5)
      (hb : IsTail b)
      (hlong : a.toNat = 0xF0 → 0x90 ≤ b.toNat)
      (hlast : a.toNat = 0xF4 → b.toNat ≤ 0x8F)
      (hc : IsTail c)
      (hd : IsTail d) :
      IsForm [a, b, c, d]
        (a.toNat % 8 * 262144 + lowBits b * 4096 + lowBits c * 64 + lowBits d)

theorem isContinuation_iff
    {b : UInt8} :
    isContinuation b = true ↔ IsTail b := by
  simp [isContinuation, IsTail, UInt8.le_iff_toNat_le]

theorem secondOfThree_iff
    {a b : UInt8} :
    secondOfThree a b = true ↔
      IsTail b ∧ (a.toNat = 0xE0 → 0xA0 ≤ b.toNat) ∧ (a.toNat = 0xED → b.toNat ≤ 0x9F) := by
  have hlong : a = 0xE0 ↔ a.toNat = 0xE0 := UInt8.toNat_inj.symm
  have hsurrogate : a = 0xED ↔ a.toNat = 0xED := UInt8.toNat_inj.symm
  unfold secondOfThree
  simp only [hlong, hsurrogate]
  split_ifs with hE0 hED
  · simp [IsTail, UInt8.le_iff_toNat_le, hE0]
    omega
  · simp [IsTail, UInt8.le_iff_toNat_le, hED]
    omega
  · simp [isContinuation_iff, hE0, hED]

theorem secondOfFour_iff
    {a b : UInt8} :
    secondOfFour a b = true ↔
      IsTail b ∧ (a.toNat = 0xF0 → 0x90 ≤ b.toNat) ∧ (a.toNat = 0xF4 → b.toNat ≤ 0x8F) := by
  have hlong : a = 0xF0 ↔ a.toNat = 0xF0 := UInt8.toNat_inj.symm
  have hlast : a = 0xF4 ↔ a.toNat = 0xF4 := UInt8.toNat_inj.symm
  unfold secondOfFour
  simp only [hlong, hlast]
  split_ifs with hF0 hF4
  · simp [IsTail, UInt8.le_iff_toNat_le, hF0]
    omega
  · simp [IsTail, UInt8.le_iff_toNat_le, hF4]
    omega
  · simp [isContinuation_iff, hF0, hF4]

/-- A form is read as its character. -/
theorem IsForm.decodeFrom_append
    {form : List UInt8} {n : Nat}
    (h : IsForm form n)
    (offset : Nat) (rest : List UInt8) :
    decodeFrom offset (form ++ rest) =
      withChar n (decodeFrom (offset + form.length) rest) := by
  cases h with
  | @one a ha =>
      have hone : a < 0x80 := UInt8.lt_iff_toNat_lt.2 ha
      rw [List.singleton_append, decodeFrom.eq_def]
      simp [hone]
  | @two a b ha hb =>
      have hone : ¬ a < 0x80 := mt UInt8.lt_iff_toNat_lt.1 (by simp; omega)
      have hlow : ¬ a < 0xC2 := mt UInt8.lt_iff_toNat_lt.1 (by simp; omega)
      have htwo : a < 0xE0 := UInt8.lt_iff_toNat_lt.2 ha.2
      simp [decodeFrom, hone, hlow, htwo, isContinuation_iff.2 hb]
  | @three a b c ha hb hlong hsurrogate hc =>
      have hone : ¬ a < 0x80 := mt UInt8.lt_iff_toNat_lt.1 (by simp; omega)
      have hlow : ¬ a < 0xC2 := mt UInt8.lt_iff_toNat_lt.1 (by simp; omega)
      have htwo : ¬ a < 0xE0 := mt UInt8.lt_iff_toNat_lt.1 (by simp; omega)
      have hthree : a < 0xF0 := UInt8.lt_iff_toNat_lt.2 ha.2
      simp [decodeFrom, hone, hlow, htwo, hthree, isContinuation_iff.2 hc,
        secondOfThree_iff.2 ⟨hb, hlong, hsurrogate⟩]
  | @four a b c d ha hb hlong hlast hc hd =>
      have hone : ¬ a < 0x80 := mt UInt8.lt_iff_toNat_lt.1 (by simp; omega)
      have hlow : ¬ a < 0xC2 := mt UInt8.lt_iff_toNat_lt.1 (by simp; omega)
      have htwo : ¬ a < 0xE0 := mt UInt8.lt_iff_toNat_lt.1 (by simp; omega)
      have hthree : ¬ a < 0xF0 := mt UInt8.lt_iff_toNat_lt.1 (by simp; omega)
      have hfour : a < 0xF5 := UInt8.lt_iff_toNat_lt.2 ha.2
      simp [decodeFrom, hone, hlow, htwo, hthree, hfour, isContinuation_iff.2 hc,
        isContinuation_iff.2 hd, secondOfFour_iff.2 ⟨hb, hlong, hlast⟩]

theorem IsTail.toNat_eq
    {b : UInt8}
    (hb : IsTail b) :
    b.toNat = 0x80 + lowBits b ∧ lowBits b < 64 := by
  obtain ⟨hlow, hhigh⟩ := hb
  rw [lowBits]
  omega

/-- A byte of six low bits is a continuation byte with these bits. -/
theorem isTail_byte
    (n : Nat) :
    IsTail (0x80 + n % 64).toUInt8 ∧ lowBits (0x80 + n % 64).toUInt8 = n % 64 := by
  rw [IsTail, lowBits, Text.toNat_toUInt8_of_lt (by omega)]
  omega

/-- A character is written in one of the forms. -/
theorem isForm_encodeChar
    (c : Char) :
    IsForm (encodeChar c) c.toNat := by
  have hlt := Text.char_toNat_lt c
  have hvalid : c.toNat < 0xD800 ∨ 0xDFFF < c.toNat := c.valid.imp id And.left
  generalize hn : c.toNat = n at hlt hvalid
  obtain ⟨hlast, hlastbits⟩ := isTail_byte n
  obtain ⟨hmiddle, hmiddlebits⟩ := isTail_byte (n / 64)
  obtain ⟨hhigh, hhighbits⟩ := isTail_byte (n / 4096)
  simp only [encodeChar, hn]
  split_ifs with hone htwo hthree
  · have ha := Text.toNat_toUInt8_of_lt (n := n) (by omega)
    have hform : IsForm [n.toUInt8] n.toUInt8.toNat := IsForm.one (by omega)
    rwa [ha] at hform
  · have ha := Text.toNat_toUInt8_of_lt (n := 0xC0 + n / 64) (by omega)
    have hform := IsForm.two (a := (0xC0 + n / 64).toUInt8) (by omega) hlast
    have hsum : (0xC0 + n / 64) % 32 * 64 + n % 64 = n := by omega
    rwa [ha, hlastbits, hsum] at hform
  · have ha := Text.toNat_toUInt8_of_lt (n := 0xE0 + n / 4096) (by omega)
    have hb := hmiddle.toNat_eq
    have hform := IsForm.three (a := (0xE0 + n / 4096).toUInt8) (by omega) hmiddle
      (by omega) (by omega) hlast
    have hsum : (0xE0 + n / 4096) % 16 * 4096 + n / 64 % 64 * 64 + n % 64 = n := by omega
    rwa [ha, hmiddlebits, hlastbits, hsum] at hform
  · have ha := Text.toNat_toUInt8_of_lt (n := 0xF0 + n / 262144) (by omega)
    have hb := hhigh.toNat_eq
    have hform := IsForm.four (a := (0xF0 + n / 262144).toUInt8) (by omega) hhigh
      (by omega) (by omega) hmiddle hlast
    have hsum :
        (0xF0 + n / 262144) % 8 * 262144 + n / 4096 % 64 * 4096 + n / 64 % 64 * 64 + n % 64 =
          n := by
      omega
    rwa [ha, hhighbits, hmiddlebits, hlastbits, hsum] at hform

/-- The number of a form is that of a character, and it gives the bytes of the form back. -/
theorem IsForm.bytes_eq
    {form : List UInt8} {n : Nat}
    (h : IsForm form n) :
    n.isValidChar ∧ Text.characterBytes n = form.map UInt8.toNat := by
  unfold Nat.isValidChar Text.characterBytes
  cases h with
  | @one a ha =>
      refine ⟨by omega, ?_⟩
      rw [if_pos ha]
      rfl
  | @two a b ha hb =>
      obtain ⟨hb, hbits⟩ := hb.toNat_eq
      refine ⟨by omega, ?_⟩
      rw [if_neg (by omega), if_pos (by omega)]
      simp only [List.map_cons, List.map_nil, List.cons.injEq, and_true]
      omega
  | @three a b c ha hb hlong hsurrogate hc =>
      obtain ⟨hb, hbits⟩ := hb.toNat_eq
      obtain ⟨hc, hcbits⟩ := hc.toNat_eq
      refine ⟨by omega, ?_⟩
      rw [if_neg (by omega), if_neg (by omega), if_pos (by omega)]
      simp only [List.map_cons, List.map_nil, List.cons.injEq, and_true]
      omega
  | @four a b c d ha hb hlong hlast hc hd =>
      obtain ⟨hb, hbits⟩ := hb.toNat_eq
      obtain ⟨hc, hcbits⟩ := hc.toNat_eq
      obtain ⟨hd, hdbits⟩ := hd.toNat_eq
      refine ⟨by omega, ?_⟩
      rw [if_neg (by omega), if_neg (by omega), if_neg (by omega)]
      simp only [List.map_cons, List.map_nil, List.cons.injEq, and_true]
      omega

/-- A form is what its character is written as. -/
theorem IsForm.encodeChar_eq
    {form : List UInt8} {n : Nat}
    (h : IsForm form n) :
    encodeChar (Char.ofNat n) = form := by
  obtain ⟨hvalid, hbytes⟩ := h.bytes_eq
  have hvalues : (encodeChar (Char.ofNat n)).map UInt8.toNat = form.map UInt8.toNat := by
    rw [Text.map_toNat_encodeChar, Char.toNat_ofNat, if_pos hvalid, hbytes]
  exact List.map_injective_iff.2 (fun _ _ => UInt8.toNat_inj.1) hvalues

/-! ## Whole texts -/

theorem withChar_eq_ok_iff
    {n : Nat} {rest : Except Fault Text} {t : Text} :
    withChar n rest = .ok t ↔ ∃ s, rest = .ok s ∧ t = Char.ofNat n :: s := by
  cases rest with
  | error fault => simp [withChar, Except.map]
  | ok s => simp [withChar, Except.map, eq_comm]

theorem decodeFrom_encode
    (offset : Nat) (t : Text) :
    decodeFrom offset (encode t) = .ok t := by
  induction t generalizing offset with
  | nil => rw [encode, decodeFrom]
  | cons c rest ih =>
      rw [encode, (isForm_encodeChar c).decodeFrom_append, withChar_eq_ok_iff]
      exact ⟨rest, ih _, by rw [Char.ofNat_toNat]⟩

/-- A form in front of the bytes of a text makes the bytes of a longer text. -/
theorem IsForm.encode_of_withChar
    {form bytes : List UInt8} {n offset : Nat} {t : Text}
    (h : IsForm form n)
    (hbytes : ∀ {s : Text}, decodeFrom offset bytes = .ok s → encode s = bytes)
    (hread : withChar n (decodeFrom offset bytes) = .ok t) :
    encode t = form ++ bytes := by
  obtain ⟨s, hrest, rfl⟩ := withChar_eq_ok_iff.1 hread
  rw [encode, h.encodeChar_eq, hbytes hrest]

/-- What is read as a text is what the text is written as. -/
theorem encode_of_decodeFrom
    {offset : Nat} {bytes : List UInt8} {t : Text}
    (hread : decodeFrom offset bytes = .ok t) :
    encode t = bytes := by
  fun_induction decodeFrom offset bytes generalizing t with
  | case1 =>
      obtain rfl : [] = t := Except.ok.inj hread
      rfl
  | case2 offset a rest hone ih =>
      rw [UInt8.lt_iff_toNat_lt] at hone
      exact (IsForm.one hone).encode_of_withChar ih hread
  | case5 offset a hone hlow htwo b rest hb ih =>
      rw [UInt8.lt_iff_toNat_lt] at hlow htwo
      have ha : 0xC2 ≤ a.toNat ∧ a.toNat < 0xE0 := ⟨not_lt.1 hlow, htwo⟩
      exact (IsForm.two ha (isContinuation_iff.1 hb)).encode_of_withChar ih hread
  | case10 offset a hone hlow htwo hthree b c rest hb hc ih =>
      rw [UInt8.lt_iff_toNat_lt] at htwo hthree
      have ha : 0xE0 ≤ a.toNat ∧ a.toNat < 0xF0 := ⟨not_lt.1 htwo, hthree⟩
      obtain ⟨hb, hlong, hsurrogate⟩ := secondOfThree_iff.1 hb
      have hform := IsForm.three ha hb hlong hsurrogate (isContinuation_iff.1 hc)
      exact hform.encode_of_withChar ih hread
  | case19 offset a hone hlow htwo hthree hfour b c d rest hb hc hd ih =>
      rw [UInt8.lt_iff_toNat_lt] at hthree hfour
      have ha : 0xF0 ≤ a.toNat ∧ a.toNat < 0xF5 := ⟨not_lt.1 hthree, hfour⟩
      obtain ⟨hb, hlong, hlast⟩ := secondOfFour_iff.1 hb
      have hform :=
        IsForm.four ha hb hlong hlast (isContinuation_iff.1 hc) (isContinuation_iff.1 hd)
      exact hform.encode_of_withChar ih hread
  | _ => cases hread

/-- Reading succeeds exactly on what is written for a text, and gives this text. -/
theorem decode_eq_ok_iff
    {bytes : List UInt8} {t : Text} :
    decode bytes = .ok t ↔ bytes = encode t := by
  constructor
  · intro hread
    exact (encode_of_decodeFrom hread).symm
  · rintro rfl
    exact decodeFrom_encode 0 t

end Utf8

namespace FileReader

variable {read : FileReader} {path : Text}

/-- A text is read exactly where the file holds what is written for it. -/
theorem readText_eq_ok_iff
    {t : Text} :
    read.readText path = .ok t ↔ read path = .ok (Utf8.encode t) := by
  unfold readText
  cases hfile : read path with
  | error cause => simp [bind, Except.bind]
  | ok bytes =>
      rw [Except.ok.injEq, ← Utf8.decode_eq_ok_iff]
      cases hdecode : Utf8.decode bytes <;> simp [bind, Except.bind, pure, Except.pure, hdecode]

/-- A text is not read where there is no file, and where no text is written like the file. -/
theorem readText_eq_error_iff
    {cause : FileError} :
    read.readText path = .error cause ↔
      read path = .error cause ∨
        cause = .notUtf8 ∧ ∃ bytes, read path = .ok bytes ∧ ∀ t, bytes ≠ Utf8.encode t := by
  unfold readText
  cases hfile : read path with
  | error other => simp [bind, Except.bind]
  | ok bytes =>
      simp only [reduceCtorEq, false_or, Except.ok.injEq, ne_eq, exists_eq_left',
        ← Utf8.decode_eq_ok_iff]
      cases hdecode : Utf8.decode bytes <;>
        simp [bind, Except.bind, pure, Except.pure, hdecode, eq_comm]

end FileReader
end TeachingEditor
