/-!
# Powers

Powers of the two bases that numbers are written in: two in the machine, ten on paper.
-/

namespace Scaffold.Number

/-- A power of two. -/
def twoTo (n : Nat) : Nat := Nat.pow 2 n

/-- A power of ten. -/
def tenTo (n : Nat) : Nat := Nat.pow 10 n

end Scaffold.Number
