import TeachingEditor.Proofs.Text

/-!
# The order of bytes

Two texts can be compared by their characters or by the bytes of their UTF-8 form.
Both give the same order, so a list that is sorted by characters here is sorted by
bytes for every other program.

**Algorithm.**  The bytes of a character hold its number in groups of six bits, the
highest first, and the first byte is larger the more bytes follow it.  So the first
byte in which two characters differ decides as their numbers do, and what stands
behind the characters plays no part (`characterBytes_append_lt`).

**Results.**  `bytes_strictMono`: the bytes of two texts are in the order of the texts.
-/

namespace TeachingEditor
namespace Text

/-- The values of the bytes of a text. -/
def bytes (t : Text) : List ℕ :=
  (Utf8.encode t).map UInt8.toNat

/-- The values of the bytes of the character with a number. -/
def characterBytes (n : ℕ) : List ℕ :=
  if n < 0x80 then
    [n]
  else if n < 0x800 then
    [0xC0 + n / 64, 0x80 + n % 64]
  else if n < 0x10000 then
    [0xE0 + n / 4096, 0x80 + n / 64 % 64, 0x80 + n % 64]
  else
    [0xF0 + n / 262144, 0x80 + n / 4096 % 64, 0x80 + n / 64 % 64, 0x80 + n % 64]

theorem toNat_toUInt8_of_lt
    {n : ℕ}
    (hn : n < 256) :
    n.toUInt8.toNat = n := by
  simp [Nat.mod_eq_of_lt hn]

theorem char_toNat_lt
    (c : Char) :
    c.toNat < 0x110000 := by
  have hvalid := c.valid
  simp only [UInt32.isValidChar, Nat.isValidChar] at hvalid
  rw [Char.toNat]
  omega

theorem map_toNat_encodeChar
    (c : Char) :
    (Utf8.encodeChar c).map UInt8.toNat = characterBytes c.toNat := by
  have hlt := char_toNat_lt c
  simp only [Utf8.encodeChar, characterBytes]
  split_ifs <;>
    simp (disch := omega) only [List.map_cons, List.map_nil, toNat_toUInt8_of_lt]

/-- Characters decide the order of bytes, whatever stands behind them. -/
theorem characterBytes_append_lt
    {m n : ℕ}
    (hlt : m < n)
    (hn : n < 0x110000)
    (s t : List ℕ) :
    characterBytes m ++ s < characterBytes n ++ t := by
  unfold characterBytes
  split_ifs <;>
    simp only [List.cons_append, List.nil_append, List.cons_lt_cons_iff] <;>
    omega

theorem nil_lt_characterBytes_append
    (n : ℕ) (s : List ℕ) :
    [] < characterBytes n ++ s := by
  unfold characterBytes
  split_ifs <;> exact List.nil_lt_cons _ _

theorem bytes_cons
    (c : Char) (t : Text) :
    bytes (c :: t) = characterBytes c.toNat ++ bytes t := by
  rw [bytes, Utf8.encode, List.map_append, map_toNat_encodeChar]
  rfl

theorem bytes_append
    (s t : Text) :
    bytes (s ++ t) = bytes s ++ bytes t := by
  rw [bytes, encode_append, List.map_append]
  rfl

theorem length_bytes
    (t : Text) :
    (bytes t).length = size t := by
  rw [bytes, List.length_map, encode_length]

/-- Texts are in the order of their bytes. -/
theorem bytes_strictMono :
    StrictMono bytes := by
  intro s t hlt
  -- The order of lists goes down to the first place in which the texts differ.
  induction (hlt : List.Lex (· < ·) s t) with
  | @nil c t =>
      rw [bytes_cons]
      exact nil_lt_characterBytes_append c.toNat (bytes t)
  | @cons c s t hlt ih =>
      rw [bytes_cons, bytes_cons]
      exact List.Lex.append_left _ ih _
  | @rel c s d t hlt =>
      rw [bytes_cons, bytes_cons]
      exact characterBytes_append_lt hlt (char_toNat_lt d) _ _

end Text
end TeachingEditor
