import BayesLex.Regex.Combinators
import BayesLex.Text.Utf8

/-!
# Weights

The weight of an expression is the number of bytes that the table of its
states takes once its repetitions are written out.  There are two tables: one
for reading forwards, and one for reading backwards, which knows no capture
groups.

A state takes 32 bytes, each branch of a choice 4 bytes more and each range of
bytes 8.  There is a state for each byte of a character and for each
assertion, and for a set one or more for each place of a byte in the
encodings of its members.

The weight is compared with a limit of ten mebibytes, and nothing else depends
on it.  It is exact but for the sets of many ranges, whose states for reading
backwards are shared through a memory of limited size.  What that memory loses
is an estimate, and so are sets without any member: an expression within a few
parts in a thousand of the limit may be judged wrongly.
-/

namespace BayesLex

/-- The number of bytes of the table for each direction. -/
structure Weight where
  forwards : Nat
  backwards : Nat
  deriving DecidableEq

namespace Weight

/-- The same number of bytes in both tables. -/
def both (bytes : Nat) : Weight where
  forwards := bytes
  backwards := bytes

instance : Add Weight where
  add left right :=
    { forwards := left.forwards + right.forwards
      backwards := left.backwards + right.backwards }

/-- So many copies. -/
def times (count : Nat) (weight : Weight) : Weight where
  forwards := count * weight.forwards
  backwards := count * weight.backwards

end Weight

/--
The weight of a set.  Forwards there is a state for whatever can be left of an
encoding, with a range of bytes for each way to go on.  Backwards every byte
pattern is a branch of its own, but patterns that begin alike share the states
of their beginnings.  About one of 384 such states beyond the first fifty is
made twice, because not all of them are remembered.
-/
def CharSet.weight (set : CharSet) : Weight :=
  match set.only? with
  | some code => .both (32 * (Utf8.ofCode code).length)
  | none =>
      if set.ranges.all (fun range => range.2 < 0x80) then
        .both (64 + 8 * set.ranges.length)
      else
        let patterns := set.ranges.flatMap Utf8.ofRange
        let endings := Utf8.endings 4 [patterns]
        let ways :=
          endings.foldl (fun ways patterns => ways + (Utf8.behind patterns).length) 0
        let beginnings := Utf8.beginnings [] patterns
        { forwards := 32 + 32 * endings.length + 8 * ways
          backwards :=
            64 + 32 * beginnings + 4 * patterns.length + (beginnings - 50) / 12 }

/--
The bytes of the states behind which some words of at most `length` bytes go
on.  Words with the same next byte share a state unless a word that is
complete stands between them.
-/
def sharedWeight : (length : Nat) → List (List Nat) → Nat
  | 0, _ => 0
  | length + 1, words =>
      let complete := words.filter List.isEmpty
      let runs :=
        (words.splitBy fun word next => word.isEmpty == next.isEmpty).filter
          fun run => !run.all List.isEmpty
      let ways := complete.length + runs.length
      let weights :=
        runs.map fun run =>
          let bytes := (run.filterMap List.head?).eraseDups
          let behind :=
            bytes.map fun byte =>
              sharedWeight length
                ((run.filter fun word => word.head? = some byte).map List.tail)
          behind.sum + if bytes.length = 1 then 32 else 32 + 8 * bytes.length
      if runs.isEmpty then
        0
      else if ways = 1 then
        weights.sum
      else
        weights.sum + 32 + 4 * ways

/-- The weight of a choice between words. -/
def wordsWeight (words : List (List Nat)) : Weight :=
  let length := words.foldl (fun length word => max length word.length) 0
  { forwards := 32 + sharedWeight length words
    backwards := 32 + sharedWeight length (words.map List.reverse) }

namespace Regex

/-- The bytes of the only text that an expression matches, if it is not empty. -/
def bytes? (regex : Regex) : Option (List Nat) :=
  match regex.items with
  | [] => none
  | items => (items.mapM character?).map (List.flatMap Utf8.ofCode)

/-- The weight of a repetition. -/
def repeatedWeight (nullable : Bool) (body : Weight) (repetition : Repetition) :
    Weight :=
  match repetition.least, repetition.most with
  | 0, none => if nullable then body + .both 112 else body + .both 40
  | least, none => body.times least + .both 40
  | 0, some most =>
      (body + .both 40).times most + .both (if most = 1 then 32 else 64)
  | least, some most =>
      if least = most then
        body.times least
      else
        body.times least + (body + .both 40).times (most - least) + .both 32

/--
The weight of an expression.  As a branch of alternatives, its states are
reached by a choice.
-/
def weight (asBranch : Bool) : Regex → Weight
  | empty | assertion _ => reached (.both 32)
  | one set => reached set.weight
  | group _ body =>
      reached (body.weight false + { forwards := 64, backwards := 0 })
  | seq left right => reached (left.weight false + right.weight false)
  | alt left right =>
      let branches := left.weight true + right.weight true
      if asBranch then
        branches
      else
        match (alt left right).branches.mapM bytes? with
        | some words => wordsWeight words
        | none => branches + .both 64
  | iterate body repetition =>
      reached (repeatedWeight body.nullable (body.weight false) repetition)
where
  /-- The weight with the branch that leads to the states. -/
  reached (own : Weight) : Weight :=
    if asBranch then own + .both 4 else own

/-- The weight of an expression with what begins and ends each match. -/
def totalWeight (regex : Regex) : Weight :=
  regex.weight false +
    { forwards := if regex.leads .textStart then 128 else 208
      backwards := if regex.trails .textEnd then 64 else 144 }

/-- A generous estimate of the weight, without counting the states of sets. -/
def weightBound : Regex → Nat
  | empty | assertion _ => 32
  | one set => 64 + 2400 * set.ranges.length
  | group _ body => body.weightBound + 64
  | seq left right => left.weightBound + right.weightBound
  | alt left right => left.weightBound + right.weightBound + 72
  | iterate body repetition =>
      (body.weightBound + 112) * (repetition.most.getD repetition.least + 1)

end Regex

end BayesLex
