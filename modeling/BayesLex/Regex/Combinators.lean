import BayesLex.Regex.Basic

/-!
# Building regular expressions

Sequences, alternatives and repetitions are built here from their parts and
put into a simpler form on the way, so that expressions which differ only in
their spelling become equal.  A sequence is the list of its items, and nothing
in it is a sequence itself; the same holds for alternatives and their
branches.

Alternatives keep their order, since an earlier one is preferred.  But where
all of them are sequences that begin alike, what they share is matched once,
before the choice: the first way to match it that leads to any alternative is
the one taken.  Characters in a row count as one part of a sequence there, and
they are shared only as a whole.
-/

namespace BayesLex

namespace Regex

/-- The items of a sequence. -/
def items : Regex → List Regex
  | empty => []
  | seq left right => left.items ++ right.items
  | regex => [regex]

/-- The branches of an expression. -/
def branches : Regex → List Regex
  | alt left right => left.branches ++ right.branches
  | regex => [regex]

/-- The items of a list, one behind the other. -/
def chain : List Regex → Regex
  | [] => empty
  | [regex] => regex
  | first :: second :: rest => seq first (chain (second :: rest))

/-- The expressions of a list, one behind the other. -/
def sequence (regexes : List Regex) : Regex :=
  chain (regexes.flatMap items)

/-- The set whose members an expression matches. -/
def set? : Regex → Option CharSet
  | one set => some set
  | _ => none

/-- The code point of the only character that an expression matches. -/
def character? (regex : Regex) : Option Nat :=
  regex.set?.bind CharSet.only?

/-- Whether an expression matches one character and no other. -/
def isCharacter (regex : Regex) : Bool :=
  regex.character?.isSome

/--
One of some expressions, the first preferred.  A choice between characters is
a set, and so is a choice between sets of which none is a single character.
The choice between no expressions is the empty set.
-/
def choice : List Regex → Regex
  | [] => one (.union [])
  | first :: rest =>
      match (first :: rest).mapM set? with
      | some sets =>
          if rest.all (fun regex => regex.isCharacter == first.isCharacter) then
            one (.union sets)
          else
            rest.foldl alt first
      | none => rest.foldl alt first

/-- The parts of a sequence: characters in a row, or single items. -/
def parts (regex : Regex) : List (List Regex) :=
  regex.items.splitBy fun item next => item.isCharacter && next.isCharacter

/-- The beginning that two lists of parts have in common. -/
def shared : List (List Regex) → List (List Regex) → List (List Regex)
  | first :: rest, first' :: rest' =>
      if first = first' then first :: shared rest rest' else []
  | _, _ => []

/-- The beginning that some sequences have in common, if all have two parts. -/
def sharedParts (sequences : List (List (List Regex))) : List (List Regex) :=
  if sequences.all (fun parts => 2 ≤ parts.length) then
    match sequences with
    | [] => []
    | first :: rest => rest.foldl shared first
  else
    []

/-- One of some expressions, the first preferred, behind what they share. -/
def alternatives (regexes : List Regex) : Regex :=
  let branches := regexes.flatMap branches
  let sequences := branches.map parts
  match sharedParts sequences with
  | [] => choice branches
  | start =>
      let endings :=
        sequences.map (fun parts => sequence (parts.drop start.length).flatten)
      sequence (start.flatten ++ [choice (endings.flatMap Regex.branches)])

/--
An expression repeated.  To repeat what passes no character changes nothing,
so that it is matched once at most.  Without any repetition nothing is left of
the expression, and its capture groups are gone.
-/
def repeated (body : Regex) (repetition : Repetition) : Regex :=
  let least := if body.zeroWidth then min repetition.least 1 else repetition.least
  let most :=
    if body.zeroWidth then some (min (repetition.most.getD 1) 1)
    else repetition.most
  if most = some 0 then
    empty
  else if least = 1 ∧ most = some 1 then
    body
  else
    iterate body { least, most, greedy := repetition.greedy }

end Regex

end BayesLex
