import TeachingEditor.Toml.Value
import TeachingEditor.Text.Quoted

/-!
# Numbers, dates and truth values of TOML

**Input.**  The characters of an unquoted value, all of them.

**Format.**  The digits of a number may be grouped by single underscores between
them.  A decimal integer has an optional sign and no leading zeros; integers to
the bases 16, 8 and 2 have a lower-case mark and no sign.  A float has a fraction,
an exponent or both, or is infinite or no number.  Dates and times are those of the
calendar, and only a date with a time may have an offset.

**Results.**  `readScalar?` gives the value.  An integer is kept exactly, whatever
its size.
-/

namespace TeachingEditor
namespace Toml

/-- Whether characters are digits with single underscores between them; the flag says that a
digit stands in front. -/
def isGroupedFrom (isDigit : Char → Bool) (afterDigit : Bool) : Text → Bool
  | [] => afterDigit
  | c :: rest =>
      if isDigit c then
        isGroupedFrom isDigit true rest
      else
        c = '_' && afterDigit && isGroupedFrom isDigit false rest

/-- Whether characters are digits with single underscores between them. -/
def isGrouped (isDigit : Char → Bool) (t : Text) : Bool :=
  isGroupedFrom isDigit false t

/-- The value of digits to a base; other characters do not count. -/
def digitsValue (base : Nat) (t : Text) : Nat :=
  t.foldl (fun n c => match Text.hexDigit? c with
    | some d => base * n + d
    | none => n) 0

/-- The value of decimal digits without leading zeros. -/
def readDecimal? (t : Text) : Option Nat :=
  if isGrouped Char.isDigit t && (t.head? ≠ some '0' || t.length = 1) then
    some (digitsValue 10 t)
  else
    none

/-- The value of digits to a base behind its mark. -/
def readBased? (base : Nat) (isDigit : Char → Bool) (t : Text) : Option Nat :=
  if isGrouped isDigit t then some (digitsValue base t) else none

/-- Take a sign off: whether the number is negative, and the rest. -/
def splitSign : Text → Bool × Text
  | '-' :: rest => (true, rest)
  | '+' :: rest => (false, rest)
  | t => (false, t)

/-- The integer that a text writes. -/
def readInteger? : Text → Option Int
  | '0' :: 'x' :: rest => (readBased? 16 (fun c => (Text.hexDigit? c).isSome) rest).map Int.ofNat
  | '0' :: 'o' :: rest =>
      (readBased? 8 (fun c => '0' ≤ c && c ≤ '7') rest).map Int.ofNat
  | '0' :: 'b' :: rest =>
      (readBased? 2 (fun c => c = '0' || c = '1') rest).map Int.ofNat
  | t =>
      let (negative, digits) := splitSign t
      (readDecimal? digits).map fun n => if negative then -(n : Int) else n

/-- The least number that is rounded to infinity in double precision. -/
def doubleBound : Nat :=
  Nat.pow 2 1024 - Nat.pow 2 970

/--
Whether a decimal significand with a decimal exponent stays below the bound.  Far from
the bound the number of digits decides, so no large power is computed.
-/
def isInDoubleRange (significand : Nat) (exponent : Int) : Bool :=
  let top := (Nat.toDigits 10 significand).length + exponent
  if significand = 0 then true
  else if top ≤ 308 then true
  else if 310 ≤ top then false
  else if 0 ≤ exponent then significand * Nat.pow 10 exponent.toNat < doubleBound
  else significand < doubleBound * Nat.pow 10 (-exponent).toNat

/-- The exponent that a text writes behind its mark. -/
def readExponent? (t : Text) : Option Int :=
  let (negative, digits) := splitSign t
  if isGrouped Char.isDigit digits then
    some (if negative then -(digitsValue 10 digits : Int) else digitsValue 10 digits)
  else
    none

/-- Whether a character separates the exponent of a float from what stands before it. -/
def isExponentMark (c : Char) : Bool :=
  c = 'e' || c = 'E'

/-- The range of a float: its whole part, and a fraction, an exponent or both behind it. -/
def readFloatParts? (whole : Text) : Text → Option Bool
  | [] => none
  | c :: rest => do
      let _ ← readDecimal? whole
      if c = '.' then
        let fraction := rest.takeWhile fun c => ! isExponentMark c
        let significand := digitsValue 10 (whole ++ fraction)
        let scale : Int := (fraction.filter Char.isDigit).length
        if isGrouped Char.isDigit fraction then
          match rest.dropWhile fun c => ! isExponentMark c with
          | [] => some (isInDoubleRange significand (-scale))
          | _ :: exponent =>
              (readExponent? exponent).map fun e => isInDoubleRange significand (e - scale)
        else
          none
      else if isExponentMark c then
        (readExponent? rest).map fun e => isInDoubleRange (digitsValue 10 whole) e
      else
        none

/-- Whether a character may stand in the whole part of a number. -/
def isWholePart (c : Char) : Bool :=
  c.isDigit || c = '_'

/-- The range of the float that a text writes; infinity, written as such, is in range. -/
def readFloat? (t : Text) : Option Bool :=
  let (_, t) := splitSign t
  if t = "inf".toList ∨ t = "nan".toList then
    some true
  else
    readFloatParts? (t.takeWhile isWholePart) (t.dropWhile isWholePart)

/-- Read a number of exactly so many digits. -/
def readFixed? (count : Nat) (t : Text) : Option (Nat × Text) :=
  let digits := t.take count
  if digits.length = count ∧ digits.all Char.isDigit then
    some (digitsValue 10 digits, t.drop count)
  else
    none

/-- Read a character. -/
def expect? (c : Char) : Text → Option Text
  | [] => none
  | d :: rest => if c = d then some rest else none

/-- Whether a year has a 29th of February. -/
def isLeapYear (year : Nat) : Bool :=
  year % 4 = 0 && (year % 100 ≠ 0 || year % 400 = 0)

/-- The number of days of a month. -/
def daysInMonth (year month : Nat) : Nat :=
  if month = 2 then (if isLeapYear year then 29 else 28)
  else if month ∈ [4, 6, 9, 11] then 30
  else 31

/-- Read a date and give what follows it. -/
def readDate? (t : Text) : Option Text := do
  let (year, t) ← readFixed? 4 t
  let t ← expect? '-' t
  let (month, t) ← readFixed? 2 t
  let t ← expect? '-' t
  let (day, t) ← readFixed? 2 t
  if 1 ≤ month ∧ month ≤ 12 ∧ 1 ≤ day ∧ day ≤ daysInMonth year month then some t else none

/-- Read the fraction of a second, if there is one, and give what follows. -/
def readFraction? : Text → Option Text
  | '.' :: rest =>
      if (rest.takeWhile Char.isDigit).isEmpty then none else some (rest.dropWhile Char.isDigit)
  | t => some t

/-- Read a time, with or without seconds, and give what follows it. -/
def readTime? (t : Text) : Option Text := do
  let (hour, t) ← readFixed? 2 t
  let t ← expect? ':' t
  let (minute, t) ← readFixed? 2 t
  if 23 < hour ∨ 59 < minute then none
  else
    match t with
    | ':' :: rest =>
        let (second, rest) ← readFixed? 2 rest
        if 60 < second then none else readFraction? rest
    | t => some t

/-- Read an offset from universal time, if there is one, and give what follows. -/
def readOffset? : Text → Option Text
  | 'Z' :: rest => some rest
  | 'z' :: rest => some rest
  | c :: rest =>
      if c = '+' ∨ c = '-' then do
        let (hour, rest) ← readFixed? 2 rest
        let rest ← expect? ':' rest
        let (minute, rest) ← readFixed? 2 rest
        if 23 < hour ∨ 59 < minute then none else some rest
      else
        some (c :: rest)
  | [] => some []

/-- Whether a text is a date. -/
def isDate (t : Text) : Bool :=
  readDate? t = some []

/-- Whether a text is a time of day. -/
def isTime (t : Text) : Bool :=
  readTime? t = some []

/-- Whether a text is a date joined to a time, with or without an offset. -/
def isMoment (t : Text) : Bool :=
  match readDate? t with
  | some (c :: rest) =>
      (c = 'T' || c = 't' || c = ' ') && ((readTime? rest).bind readOffset? = some [])
  | _ => false

/-- The value that unquoted characters write. -/
def readScalar? (t : Text) : Option Value :=
  if t = "true".toList then some (.boolean true)
  else if t = "false".toList then some (.boolean false)
  else if isDate t || isTime t || isMoment t then some .dateTime
  else
    match readInteger? t with
    | some n => some (.integer n)
    | none => (readFloat? t).map .float

end Toml
end TeachingEditor
