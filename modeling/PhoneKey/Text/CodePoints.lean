/-! # Sets of code points

A set of code points is a list of stretches, each given by its first and last member.
-/

namespace PhoneKey.Text

abbrev CodePoints := List (Nat × Nat)

def CodePoints.has (set : CodePoints) (char : Char) : Bool :=
  set.any fun (first, last) => first ≤ char.toNat && char.toNat ≤ last

end PhoneKey.Text
