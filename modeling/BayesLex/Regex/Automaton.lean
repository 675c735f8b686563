import BayesLex.Regex.Thread

/-!
# Searching with an automaton

An automaton searches a text for an expression.  It reads the text once, one
character after the other, and keeps the threads that are alive between two
characters.  The match found is the preferred one of those that begin at the
leftmost possible place: a branch is preferred to the branches behind it, and
one repetition more to one less unless the repetition is reluctant.

An expression all of whose matches begin at the start of the text is tried
there only.
-/

namespace BayesLex

/-- A match of an expression in a text. -/
structure Run where
  /-- The number of characters before the end of the match. -/
  taken : Nat
  captures : Captures
  deriving DecidableEq

/-- The last capture of a group. -/
def Run.group? (run : Run) (index : Nat) : Option Capture :=
  run.captures.lookup index

/-- An expression ready for the search. -/
structure Automaton where
  plan : Plan
  /-- Whether every match begins at the start of the text. -/
  anchored : Bool
  /-- More steps than the threads at one place can take. -/
  effort : Nat
  deriving DecidableEq

/--
The automaton of an expression.  At one place every state is entered once at
most and begins two threads at most, and between two states a thread does no
more than three tasks for each part of the plan.
-/
def Regex.automaton (regex : Regex) : Automaton :=
  let plan := regex.plan
  { plan
    anchored := regex.leads .textStart
    effort := 9 * (plan.width + 1) * (plan.size + 1) }

namespace Automaton

/-- Whether a match may begin at a place, with the best match found so far. -/
def begins (automaton : Automaton) (place : Place) (best : Option Run) : Bool :=
  best.isNone && (!automaton.anchored || place.taken == 0)

/-- What the threads at a place come to, with a thread that begins there. -/
def arrive (automaton : Automaton) (place : Place) (threads : List Thread)
    (best : Option Run) : Frontier :=
  let threads :=
    if automaton.begins place best then
      threads ++ [Thread.start automaton.plan]
    else
      threads
  Frontier.follow place automaton.effort threads {}

/-- The best match, when the threads at a place have come to a frontier. -/
def update (place : Place) (frontier : Frontier) (best : Option Run) :
    Option Run :=
  match frontier.accepted with
  | some captures => some { taken := place.taken, captures }
  | none => best

/--
Search the text behind a place with the threads that are alive there and the
best match found so far.
-/
def search (automaton : Automaton) :
    Text → Place → List Thread → Option Run → Option Run
  | [], place, threads, best =>
      update place (automaton.arrive place threads best) best
  | _ :: rest, place, threads, best =>
      let frontier := automaton.arrive place threads best
      let best := update place frontier best
      if frontier.passed.isEmpty && (automaton.anchored || best.isSome) then
        best
      else
        search automaton rest (place.pass rest) frontier.passed.reverse best

/-- The match of an expression in a text. -/
def find? (automaton : Automaton) (text : Text) : Option Run :=
  automaton.search text (Place.start text) [] none

end Automaton

end BayesLex
