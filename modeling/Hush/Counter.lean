/-!
# Wrapping counters

Distances on a 32-bit counter that starts again at zero.
-/
namespace Hush.Counter

/-- How far `a` is ahead of `b`, negative when it is behind; right while the two are less than half
the counter apart. -/
def distance (a b : UInt32) : Int32 := (a - b).toInt32

end Hush.Counter
