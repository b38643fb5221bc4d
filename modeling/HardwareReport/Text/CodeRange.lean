/-!
# Text — runs of code points

Character classes that are data of the Unicode standard are written as lists of runs.
-/

namespace HardwareReport.Text

/-- The code points from `first` to `last`, both included. -/
structure CodeRange where
  first : Nat
  last : Nat
  deriving DecidableEq, Repr

/-- Whether the code point of `c` lies in the run. -/
def CodeRange.contains (run : CodeRange) (c : Char) : Bool :=
  run.first ≤ c.toNat && c.toNat ≤ run.last

end HardwareReport.Text
