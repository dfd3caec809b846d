/-!
# Sets of code points as ranges

A property of characters that is known only as a table is written as the list of
its ranges, each with its first and last code point, in increasing order.

**Algorithm.**  `covers` walks along the ranges and stops at the first one that
starts behind the code point, so characters at the low end are decided at once.
-/

namespace TeachingEditor
namespace Text

/-- Ranges of code points, both ends included, in increasing order. -/
abbrev CodePointRanges := List (Nat × Nat)

/-- Whether a code point lies in one of the ranges. -/
def CodePointRanges.covers : CodePointRanges → Nat → Bool
  | [], _ => false
  | (first, last) :: rest, n =>
      if n < first then
        false
      else if n ≤ last then
        true
      else
        CodePointRanges.covers rest n

end Text
end TeachingEditor
