/-!
# Ranges of code points

A character property of the Unicode standard is a table of closed ranges of code
points in ascending order. `covers` is membership. The tables of this folder
leave out ASCII, which each property decides by itself.
-/

namespace ScanConsole.Text

/-- Some range of the table holds the character. -/
def covers (ranges : Array (Nat × Nat)) (c : Char) : Bool :=
  ranges.any fun r => decide (r.1 ≤ c.toNat) && decide (c.toNat ≤ r.2)

end ScanConsole.Text
