/-!
# Sets of characters

A set of characters is a list of inclusive ranges of code points, and membership is a scan.
-/

namespace TagDispatch.Text

/-- A set of characters, as inclusive ranges of code points. -/
abbrev Ranges := List (Nat × Nat)

/-- Whether some range holds the character. -/
def Ranges.contains (ranges : Ranges) (c : Char) : Bool :=
  ranges.any fun range => range.1 ≤ c.toNat && c.toNat ≤ range.2

end TagDispatch.Text
