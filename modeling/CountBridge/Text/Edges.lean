/-!
Properties of characters given as data: the code points at which the property
changes, in ascending order. It holds from the first edge to the second, again
from the third to the fourth, and so on: wherever an odd number of edges is
passed.
-/

namespace CountBridge.Text

/-- The number of edges up to a code point, which lies between two bounds. Each turn
halves the distance of the bounds. -/
def edgesUpTo (edges : Array Nat) (code : Nat) : (turns low high : Nat) → Nat
  | 0, low, _ => low
  | turns + 1, low, high =>
    if low < high then
      let middle := (low + high) / 2
      if edges.getD middle 0 ≤ code then edgesUpTo edges code turns (middle + 1) high
      else edgesUpTo edges code turns low middle
    else low

def holdsBetween (edges : Array Nat) (c : Char) : Bool :=
  edgesUpTo edges c.toNat (edges.size.log2 + 1) 0 edges.size % 2 == 1

end CountBridge.Text
