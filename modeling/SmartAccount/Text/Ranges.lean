/-!
# Ranges of code points

A set of characters as an array of ranges in ascending order that do not touch, and the search
in it by halving. A table of runs says in the same way what holds of the characters of each run.
-/

namespace SmartAccount.Text

/-- Ranges of code points, first and last of each. -/
abbrev Ranges := Array (Nat × Nat)

namespace Ranges

/-- Whether a code point lies in one of the ranges from number `low` to before number `high`. -/
def containsBetween (ranges : Ranges) (code low high : Nat) : Bool :=
  if low < high then
    let middle := (low + high) / 2
    match ranges[middle]? with
    | none => false
    | some (first, last) =>
      if code < first then containsBetween ranges code low middle
      else if last < code then containsBetween ranges code (middle + 1) high
      else true
  else false
termination_by high - low

def contains (ranges : Ranges) (c : Char) : Bool :=
  ranges.containsBetween c.toNat 0 ranges.size

end Ranges

/-- Runs of code points in ascending order: the first of each and what is said of it. -/
abbrev Runs := Array (Nat × Nat × Nat)

namespace Runs

/-- The last of the runs before number `high` that begins at a code point or before it, if there
is one from number `low` on. -/
def lastFrom (runs : Runs) (code low high : Nat) : Option (Nat × Nat × Nat) :=
  if low < high then
    let middle := (low + high) / 2
    match runs[middle]? with
    | none => none
    | some run =>
      if code < run.1 then lastFrom runs code low middle
      else (lastFrom runs code (middle + 1) high).or (some run)
  else none
termination_by high - low

/-- The last run that begins at a character or before it. -/
def last (runs : Runs) (c : Char) : Option (Nat × Nat × Nat) := runs.lastFrom c.toNat 0 runs.size

end Runs

end SmartAccount.Text
