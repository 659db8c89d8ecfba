/- A set of code points, written as its ranges. -/
namespace Gatehouse.Text

abbrev Ranges := List (Nat × Nat)

def Ranges.covers (ranges : Ranges) (code : Nat) : Bool :=
  ranges.any fun (low, high) => low ≤ code && code ≤ high

end Gatehouse.Text
