/-!
# Ranges of characters

A set of characters given by the numbers at which it begins and ends, in rising order: the
characters from the first number up to the second are in it, those up to the third are not, and so
on by turns.
-/
namespace Hush.Text

/-- A number is in the ranges with the given bounds. -/
def inRanges (bounds : List Nat) (n : Nat) : Bool := (bounds.takeWhile (· ≤ n)).length % 2 == 1

end Hush.Text
