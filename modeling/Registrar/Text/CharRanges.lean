/-!
# Ranges of characters

A property of characters beyond ASCII is kept as closed ranges of code points, ascending and apart.
-/

namespace Registrar

/-- Closed ranges of code points. -/
abbrev CharRanges := List (Nat × Nat)

namespace CharRanges

/-- Whether a character lies in one of the ranges. -/
def contains (ranges : CharRanges) (c : Char) : Bool :=
  ranges.any fun range => range.1 ≤ c.toNat && c.toNat ≤ range.2

/-- Each range begins above the one before it. -/
def ascending : CharRanges → Bool
  | [] => true
  | [range] => range.1 ≤ range.2
  | range :: next :: rest => range.1 ≤ range.2 && range.2 < next.1 && ascending (next :: rest)

end CharRanges

end Registrar
