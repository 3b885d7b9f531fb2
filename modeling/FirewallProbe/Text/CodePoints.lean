/-! # Sets of code points

A set of code points is given by the points at which membership changes, in increasing order: the
first is the least member, the second the least non-member above it, and so on. -/

namespace FirewallProbe.Text

/-- Whether the code point `n` belongs to the set with the given changes. -/
def memberAt (n : Nat) : List Nat → Bool
  | [] => false
  | change :: rest => if n < change then false else !memberAt n rest

end FirewallProbe.Text
