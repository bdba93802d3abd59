/-!
# Tables of character ranges

A property of characters is a list of pairs: the first and the last code point of each range of
characters that have it.  `inRanges` looks a character up.
-/

namespace LiveForm
namespace Text

/-- Whether the code point of `c` lies in one of the ranges, ends included. -/
def inRanges (table : List (Nat × Nat)) (c : Char) : Bool :=
  table.any fun r => r.1 ≤ c.toNat && c.toNat ≤ r.2

end Text
end LiveForm
