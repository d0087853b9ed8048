/-
Powers of the two bases in which numbers are held and written.
-/
namespace ApiTypes.Number

def powerOfTwo (n : Nat) : Nat := Nat.pow 2 n

def powerOfTen (n : Nat) : Nat := Nat.pow 10 n

end ApiTypes.Number
