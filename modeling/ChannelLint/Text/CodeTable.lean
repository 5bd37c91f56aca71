/-!
# Tables of code points

A property of characters that a standard lists is kept as a sorted table of inclusive intervals
of code points. The tables below hold only code points above `0x7f`; the predicate built on a
table answers for ASCII by itself.
-/

namespace ChannelLint.Text

/-- A sorted table of inclusive intervals of code points. -/
abbrev CodeTable := Array (Nat × Nat)

/-- Whether some interval of the table holds the code point. -/
def CodeTable.contains (table : CodeTable) (code : Nat) : Bool :=
  table.any fun interval => interval.1 ≤ code && code ≤ interval.2

end ChannelLint.Text
