import BayesLex.Regex.Basic

/-!
# Plans

A plan is an expression prepared for the search.  Its states are the points
where a search passes a character or has to choose, and they are numbered from
zero: two searches in the same state go on alike.  Numbers are counted from
the beginning of each part, so that the copies of a repeated expression are
one plan at several bases.
-/

namespace BayesLex

/-- An expression with the numbers of its states. -/
inductive Plan where
  /-- Match nothing. -/
  | skip
  /-- Pass a character of a set, in state zero. -/
  | read (set : CharSet)
  | check (condition : Assertion)
  | capture (index : Nat) (body : Plan)
  /-- One plan behind the other, whose states begin at `offset`. -/
  | seq (left : Plan) (offset : Nat) (right : Plan)
  /-- Choose in state zero; the states of the plans begin at one and at `offset`. -/
  | choose (first : Plan) (offset : Nat) (second : Plan)
  /-- Copies of a plan with `width` states, one behind the other. -/
  | times (count width : Nat) (body : Plan)
  /-- At most so many copies, each behind a choice in a state of its own. -/
  | upTo (count width : Nat) (greedy : Bool) (body : Plan)
  /-- Any number of passes, and before each of them a choice in state zero. -/
  | star (greedy : Bool) (body : Plan)
  /-- At least one pass, and behind each of them a choice in state zero. -/
  | loop (greedy : Bool) (body : Plan)
  deriving DecidableEq

namespace Plan

/-- The number of states. -/
def width : Plan → Nat
  | skip | check _ => 0
  | read _ => 1
  | capture _ body => body.width
  | seq _ offset right | choose _ offset right => offset + right.width
  | times count width _ => count * width
  | upTo count width _ _ => count * (width + 1)
  | star _ body | loop _ body => body.width + 1

/-- The number of parts. -/
def size : Plan → Nat
  | skip | check _ | read _ => 1
  | capture _ body | times _ _ body | upTo _ _ _ body | star _ body
  | loop _ body => body.size + 1
  | seq left _ right | choose left _ right => left.size + right.size + 1

/-- One plan behind the other. -/
def append (left right : Plan) : Plan :=
  seq left left.width right

/-- One plan or the other, the first preferred. -/
def either (first second : Plan) : Plan :=
  choose first (first.width + 1) second

/-- A plan repeated exactly so often. -/
def replicate (count : Nat) (body : Plan) : Plan :=
  times count body.width body

/-- A plan repeated at most so often. -/
def atMost (count : Nat) (greedy : Bool) (body : Plan) : Plan :=
  upTo count body.width greedy body

/--
A plan repeated any number of times.  If a pass can match nothing, it comes
back to the place where it began, and the choice behind it has to be another
state than the choice before the first pass.
-/
def anyNumber (nullable greedy : Bool) (body : Plan) : Plan :=
  if nullable then (loop greedy body).atMost 1 greedy else star greedy body

/-- A plan repeated as often as a repetition says. -/
def iterate (nullable : Bool) (repetition : Repetition) (body : Plan) : Plan :=
  match repetition.least, repetition.most with
  | 0, none => body.anyNumber nullable repetition.greedy
  | 1, none => loop repetition.greedy body
  | least + 1, none =>
      (body.replicate least).append (loop repetition.greedy body)
  | 0, some most => body.atMost most repetition.greedy
  | least, some most =>
      if least = most then
        body.replicate least
      else
        (body.replicate least).append
          (body.atMost (most - least) repetition.greedy)

end Plan

/-- The plan of an expression. -/
def Regex.plan : Regex → Plan
  | empty => .skip
  | one set => .read set
  | assertion condition => .check condition
  | group index body => .capture index body.plan
  | seq left right => left.plan.append right.plan
  | alt left right => left.plan.either right.plan
  | iterate body repetition => body.plan.iterate body.nullable repetition

end BayesLex
