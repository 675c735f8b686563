import BayesLex.Regex.Weight

/-!
# Limits of regular expressions

An expression that is nested too deeply is refused, and so is one whose tables
of states would grow too large.
-/

namespace BayesLex.Regex

/-- The greatest number of bytes that a table of states may take. -/
def maxWeight : Nat := 10485760

/--
Whether the tables of an expression keep the limit.  Most expressions are so
far below it that the estimate shows it.
-/
def fits (regex : Regex) : Bool :=
  regex.weightBound + 208 ≤ maxWeight ||
    (regex.totalWeight.forwards ≤ maxWeight &&
      regex.totalWeight.backwards ≤ maxWeight)

/-- The greatest number of parts of an expression that may stand in each other. -/
def maxHeight : Nat := 250

end BayesLex.Regex
