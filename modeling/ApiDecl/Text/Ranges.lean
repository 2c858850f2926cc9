/-!
# Range tables

A class of characters is a list of closed ranges of code points in increasing order.
-/

namespace ApiDecl.Text

/-- Does some range of the table hold the code point? The table is in increasing order, so the
search stops at the first range that starts above it. -/
def covers : List (Nat × Nat) → Nat → Bool
  | [], _ => false
  | (lo, hi) :: rest, n => if n < lo then false else n ≤ hi || covers rest n

end ApiDecl.Text
