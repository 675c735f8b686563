import BayesLex.Proofs.Regex.Captures
import BayesLex.Regex.Reader

/-!
# Engines

An engine is all that a rule needs of a regular expression: the number of its
capture groups and a search.  The search may be any at all, as long as what it
finds fits into the text (`Run.Fits`).  So what is proved of rules does not
depend on how far the syntax of expressions is read here.

The engine of an expression that has been read is its automaton.  Any other
reading of texts, which knows more of the syntax, is a function to engines like
`Regex.compile?`.
-/

namespace BayesLex

/-- A search for an expression, which finds nothing outside of a text. -/
structure Engine where
  /-- The number of capture groups. -/
  groupCount : Nat
  find? : Text → Option Run
  fits : ∀ {text run}, find? text = some run → run.Fits text

namespace Regex

/-- The search by the automaton of an expression. -/
def engine (regex : Regex) : Engine where
  groupCount := regex.groupCount
  find? := regex.automaton.find?
  fits := regex.automaton.fits_find? _ _

@[simp]
theorem find?_engine (regex : Regex) (text : Text) :
    regex.engine.find? text = regex.automaton.find? text := rfl

/-- The engine of an expression that can be read. -/
def compile? (text : Text) : Option Engine :=
  (parse? text).map engine

theorem compile?_of_parse? {text : Text} {regex : Regex}
    (parsed : parse? text = some regex) : compile? text = some regex.engine := by
  rw [compile?, parsed, Option.map_some]

theorem compile?_eq_some_iff {text : Text} {engine : Engine} :
    compile? text = some engine ↔
      ∃ regex, parse? text = some regex ∧ regex.engine = engine :=
  Option.map_eq_some_iff

end Regex

end BayesLex
