/-!
# Runs of characters

A property of characters is stored as a list of runs. A run holds the code points from `first`
to `last` that lie a multiple of `step` after `first`, so that letters which alternate between
the two cases need one run instead of one entry each.

A `Shift` is a run whose members are moved by one common distance. It stores a case mapping: the
member `n` goes to `target + (n - first)`.
-/

namespace ParserTables.Text

/-- The code points from `first` to `last` in steps of `step`. -/
structure Run where
  first : Nat
  last : Nat
  step : Nat

namespace Run

/-- Whether the code point `n` belongs to the run. -/
def contains (r : Run) (n : Nat) : Bool :=
  r.first ≤ n && n ≤ r.last && (n - r.first) % r.step == 0

theorem contains_iff (r : Run) (n : Nat) :
    r.contains n = true ↔ r.first ≤ n ∧ n ≤ r.last ∧ (n - r.first) % r.step = 0 := by
  simp [contains, and_assoc]

end Run

/-- Whether some run of the table holds the character `c`. -/
def within (table : List Run) (c : Char) : Bool :=
  table.any (·.contains c.toNat)

/-- A run of code points that all move by one distance: the first of them goes to `target`. -/
structure Shift where
  run : Run
  target : Nat

namespace Shift

/-- Where the code point `n` goes, if the run holds it. -/
def image? (s : Shift) (n : Nat) : Option Nat :=
  if s.run.contains n then some (s.target + (n - s.run.first)) else none

end Shift

end ParserTables.Text
