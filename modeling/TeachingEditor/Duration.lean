import TeachingEditor.Text

/-!
# Durations

**Format.**  A duration is written in the largest of the units second, millisecond,
microsecond and nanosecond of which it holds at least one, with as many decimals as
are needed and no zeros at the end.
-/

namespace TeachingEditor

/-- A length of time. -/
structure Duration where
  nanoseconds : Nat
  deriving DecidableEq, Repr

namespace Duration

def ofSeconds (n : Nat) : Duration := ⟨n * 1000000000⟩

def ofMilliseconds (n : Nat) : Duration := ⟨n * 1000000⟩

/-- The decimals of a fraction, with so many digits, without zeros at the end. -/
def decimals (digits fraction : Nat) : Text :=
  let written := Text.ofNat fraction
  let padded := List.replicate (digits - written.length) '0' ++ written
  (padded.reverse.dropWhile (· = '0')).reverse

/-- A number of units, of which so many decimal digits make up one, with the name of the unit. -/
def writeIn (digits : Nat) (unit : String) (amount : Nat) : Text :=
  let fraction := amount % Nat.pow 10 digits
  Text.ofNat (amount / Nat.pow 10 digits) ++
    (if fraction = 0 then [] else '.' :: decimals digits fraction) ++ unit.toList

/-- Write a duration. -/
def write (d : Duration) : Text :=
  if 1000000000 ≤ d.nanoseconds then writeIn 9 "s" d.nanoseconds
  else if 1000000 ≤ d.nanoseconds then writeIn 6 "ms" d.nanoseconds
  else if 1000 ≤ d.nanoseconds then writeIn 3 "µs" d.nanoseconds
  else writeIn 0 "ns" d.nanoseconds

end Duration
end TeachingEditor
