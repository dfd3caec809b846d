import TeachingEditor.Text

/-!
# Reading UTF-8

**Input.**  A list of bytes.

**Algorithm.**  A byte below 128 is a character.  Any other first byte fixes the
number of bytes that follow and the range of the second byte, so that neither
overlong forms nor surrogates nor numbers past the last code point are read.

**Results.**  `decode` gives the text or the first fault: where the faulty
character starts, and how many of its bytes could still have begun a character,
or that the bytes ended inside it.
-/

namespace TeachingEditor
namespace Utf8

/-- Why bytes are not a text. -/
inductive Fault where
  /-- The bytes at an offset, so many of them, begin no character. -/
  | invalid (offset length : Nat)
  /-- The bytes end inside the character that starts at an offset. -/
  | incomplete (offset : Nat)
  deriving DecidableEq, Repr

/-- The wording of a fault. -/
def Fault.message : Fault → Text
  | .invalid offset length =>
      "invalid utf-8 sequence of ".toList ++ Text.ofNat length ++
        " bytes from index ".toList ++ Text.ofNat offset
  | .incomplete offset =>
      "incomplete utf-8 byte sequence from index ".toList ++ Text.ofNat offset

/-- Whether a byte continues a character. -/
def isContinuation (b : UInt8) : Bool :=
  0x80 ≤ b && b ≤ 0xBF

/-- The bytes that may stand second after a first byte of a three-byte form. -/
def secondOfThree (first second : UInt8) : Bool :=
  if first = 0xE0 then 0xA0 ≤ second && second ≤ 0xBF
  else if first = 0xED then 0x80 ≤ second && second ≤ 0x9F
  else isContinuation second

/-- The bytes that may stand second after a first byte of a four-byte form. -/
def secondOfFour (first second : UInt8) : Bool :=
  if first = 0xF0 then 0x90 ≤ second && second ≤ 0xBF
  else if first = 0xF4 then 0x80 ≤ second && second ≤ 0x8F
  else isContinuation second

/-- The six low bits of a byte. -/
def lowBits (b : UInt8) : Nat :=
  b.toNat % 64

/-- Put a character in front of what the remaining bytes give. -/
def withChar (codePoint : Nat) (rest : Except Fault Text) : Except Fault Text :=
  rest.map (Char.ofNat codePoint :: ·)

/-- Read bytes that start at an offset. -/
def decodeFrom (offset : Nat) : List UInt8 → Except Fault Text
  | [] => .ok []
  | a :: rest =>
      if a < 0x80 then
        withChar a.toNat (decodeFrom (offset + 1) rest)
      else if a < 0xC2 then
        .error (.invalid offset 1)
      else if a < 0xE0 then
        match rest with
        | [] => .error (.incomplete offset)
        | b :: rest =>
            if isContinuation b then
              withChar (a.toNat % 32 * 64 + lowBits b) (decodeFrom (offset + 2) rest)
            else
              .error (.invalid offset 1)
      else if a < 0xF0 then
        match rest with
        | [] => .error (.incomplete offset)
        | [b] =>
            if secondOfThree a b then .error (.incomplete offset) else .error (.invalid offset 1)
        | b :: c :: rest =>
            if secondOfThree a b then
              if isContinuation c then
                withChar (a.toNat % 16 * 4096 + lowBits b * 64 + lowBits c)
                  (decodeFrom (offset + 3) rest)
              else
                .error (.invalid offset 2)
            else
              .error (.invalid offset 1)
      else if a < 0xF5 then
        match rest with
        | [] => .error (.incomplete offset)
        | [b] =>
            if secondOfFour a b then .error (.incomplete offset) else .error (.invalid offset 1)
        | [b, c] =>
            if secondOfFour a b then
              if isContinuation c then .error (.incomplete offset) else .error (.invalid offset 2)
            else
              .error (.invalid offset 1)
        | b :: c :: d :: rest =>
            if secondOfFour a b then
              if isContinuation c then
                if isContinuation d then
                  withChar
                    (a.toNat % 8 * 262144 + lowBits b * 4096 + lowBits c * 64 + lowBits d)
                    (decodeFrom (offset + 4) rest)
                else
                  .error (.invalid offset 3)
              else
                .error (.invalid offset 2)
            else
              .error (.invalid offset 1)
      else
        .error (.invalid offset 1)

/-- Read bytes as a text. -/
def decode (bytes : List UInt8) : Except Fault Text :=
  decodeFrom 0 bytes

/-- The bytes of one character. -/
def encodeChar (c : Char) : List UInt8 :=
  let n := c.toNat
  if n < 0x80 then
    [n.toUInt8]
  else if n < 0x800 then
    [(0xC0 + n / 64).toUInt8, (0x80 + n % 64).toUInt8]
  else if n < 0x10000 then
    [(0xE0 + n / 4096).toUInt8, (0x80 + n / 64 % 64).toUInt8, (0x80 + n % 64).toUInt8]
  else
    [(0xF0 + n / 262144).toUInt8, (0x80 + n / 4096 % 64).toUInt8,
      (0x80 + n / 64 % 64).toUInt8, (0x80 + n % 64).toUInt8]

/-- The bytes of a text. -/
def encode : Text → List UInt8
  | [] => []
  | c :: rest => encodeChar c ++ encode rest

end Utf8
end TeachingEditor
