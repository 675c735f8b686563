import BayesLex.Proofs.Regex.Captures
import BayesLex.Regex.Combinators

/-!
# What an expression matches

`Regex.Matches` tells between which two places of a text an expression matches,
by the parts of the expression alone: nothing is preferred, and no thread is
followed.  The places are told by the number of the characters before them.

The plan of an expression matches between the same places as the expression
(`Regex.matches_plan_iff`), and sequences match as their items do one behind
the other (`Regex.matches_sequence_iff`).
-/

namespace BayesLex

/-- So many passes, one behind the other. -/
def Passes (pass : Nat → Nat → Prop) : Nat → Nat → Nat → Prop
  | 0, start, stop => start = stop
  | count + 1, start, stop =>
      ∃ middle, pass start middle ∧ Passes pass count middle stop

/-- More passes than the least number stay within the greatest one. -/
structure Repetition.Allows (repetition : Repetition) (count : Nat) : Prop where
  least : repetition.least ≤ count
  most : ∀ most ∈ repetition.most, repetition.least < count → count ≤ most

/-- An expression matches what stands between two places of a text. -/
def Regex.Matches (text : Text) : Regex → Nat → Nat → Prop
  | empty, start, stop => start = stop
  | one set, start, stop =>
      start + 1 = stop ∧ text[start]?.any set.contains = true
  | assertion condition, start, stop =>
      start = stop ∧ (Place.of text start).satisfies condition = true
  | group _ body, start, stop => body.Matches text start stop
  | seq left right, start, stop =>
      ∃ middle, left.Matches text start middle ∧ right.Matches text middle stop
  | alt left right, start, stop =>
      left.Matches text start stop ∨ right.Matches text start stop
  | iterate body repetition, start, stop =>
      ∃ count, repetition.Allows count ∧
        Passes (body.Matches text) count start stop

/-- A plan matches what stands between two places of a text. -/
def Plan.Matches (text : Text) : Plan → Nat → Nat → Prop
  | skip, start, stop => start = stop
  | read set, start, stop =>
      start + 1 = stop ∧ text[start]?.any set.contains = true
  | check condition, start, stop =>
      start = stop ∧ (Place.of text start).satisfies condition = true
  | capture _ body, start, stop => body.Matches text start stop
  | seq left _ right, start, stop =>
      ∃ middle, left.Matches text start middle ∧ right.Matches text middle stop
  | choose first _ second, start, stop =>
      first.Matches text start stop ∨ second.Matches text start stop
  | times count _ body, start, stop =>
      Passes (body.Matches text) count start stop
  | upTo most _ _ body, start, stop =>
      ∃ count ≤ most, Passes (body.Matches text) count start stop
  | star _ body, start, stop =>
      ∃ count, Passes (body.Matches text) count start stop
  | loop _ body, start, stop =>
      ∃ count, Passes (body.Matches text) (count + 1) start stop

section Plans

variable {pass : Nat → Nat → Prop} {text : Text} {start stop : Nat}

theorem passes_one : Passes pass 1 start stop ↔ pass start stop := by
  constructor
  · rintro ⟨middle, passed, rfl⟩
    exact passed
  · intro passed
    exact ⟨stop, passed, rfl⟩

theorem passes_add (first second : Nat) :
    Passes pass (first + second) start stop ↔
      ∃ middle, Passes pass first start middle ∧
        Passes pass second middle stop := by
  induction first generalizing start with
  | zero =>
      rw [Nat.zero_add]
      constructor
      · intro passed
        exact ⟨start, rfl, passed⟩
      · rintro ⟨middle, rfl, passed⟩
        exact passed
  | succ first hypothesis =>
      rw [Nat.add_right_comm]
      simp only [Passes, hypothesis]
      constructor
      · rintro ⟨next, passed, middle, others, rest⟩
        exact ⟨middle, ⟨next, passed, others⟩, rest⟩
      · rintro ⟨middle, ⟨next, passed, others⟩, rest⟩
        exact ⟨next, passed, middle, others, rest⟩

/-- Any number of passes is none of them, or at least one. -/
theorem Plan.matches_anyNumber_iff (nullable greedy : Bool) (body : Plan) :
    (body.anyNumber nullable greedy).Matches text start stop ↔
      ∃ count, Passes (body.Matches text) count start stop := by
  cases nullable with
  | false => exact Iff.rfl
  | true =>
      constructor
      · rintro ⟨count, most, passed⟩
        rcases Nat.le_one_iff_eq_zero_or_eq_one.1 most with rfl | rfl
        · exact ⟨0, passed⟩
        · rcases passes_one.1 passed with ⟨count, passed⟩
          exact ⟨count + 1, passed⟩
      · rintro ⟨_ | count, passed⟩
        · exact ⟨0, Nat.zero_le 1, passed⟩
        · exact ⟨1, Nat.le_refl 1, passes_one.2 ⟨count, passed⟩⟩

/--
Without a greatest number of passes, any number of them may follow the least
one.
-/
theorem Plan.matches_iterate_none (nullable greedy : Bool) (least : Nat)
    (body : Plan) :
    (body.iterate nullable ⟨least, none, greedy⟩).Matches text start stop ↔
      ∃ middle, Passes (body.Matches text) least start middle ∧
        ∃ extra, Passes (body.Matches text) extra middle stop := by
  match least with
  | 0 =>
      refine (body.matches_anyNumber_iff nullable greedy).trans ⟨?_, ?_⟩
      · intro passed
        exact ⟨start, rfl, passed⟩
      · rintro ⟨_, rfl, passed⟩
        exact passed
  | 1 =>
      constructor
      · rintro ⟨extra, middle, first, others⟩
        exact ⟨middle, passes_one.2 first, extra, others⟩
      · rintro ⟨middle, first, extra, others⟩
        exact ⟨extra, middle, passes_one.1 first, others⟩
  | least + 2 =>
      -- The last of the least passes is the first one of the loop.
      constructor
      · rintro ⟨before, first, extra, middle, last, others⟩
        exact ⟨middle, (passes_add (least + 1) 1).2
          ⟨before, first, passes_one.2 last⟩, extra, others⟩
      · rintro ⟨middle, passed, extra, others⟩
        rcases (passes_add (least + 1) 1).1 passed with ⟨before, first, last⟩
        exact ⟨before, first, extra, middle, passes_one.1 last, others⟩

/-- With a greatest number, only the passes up to it may follow. -/
theorem Plan.matches_iterate_some (nullable greedy : Bool) (least most : Nat)
    (body : Plan) :
    (body.iterate nullable ⟨least, some most, greedy⟩).Matches text start
        stop ↔
      ∃ middle, Passes (body.Matches text) least start middle ∧
        ∃ extra ≤ most - least,
          Passes (body.Matches text) extra middle stop := by
  match least with
  | 0 =>
      constructor
      · rintro ⟨extra, limit, passed⟩
        exact ⟨start, rfl, extra, limit, passed⟩
      · rintro ⟨_, rfl, extra, limit, passed⟩
        exact ⟨extra, limit, passed⟩
  | least + 1 =>
      simp only [iterate]
      by_cases exactly : least + 1 = most
      · rw [if_pos exactly, exactly, Nat.sub_self]
        constructor
        · intro passed
          exact ⟨stop, passed, 0, Nat.le_refl 0, rfl⟩
        · rintro ⟨middle, passed, extra, limit, others⟩
          cases Nat.le_zero.1 limit
          cases others
          exact passed
      · rw [if_neg exactly]
        exact Iff.rfl

/-- The passes that a repetition allows are the least number and some more. -/
theorem Repetition.exists_allows_iff (repetition : Repetition) :
    (∃ count, repetition.Allows count ∧ Passes pass count start stop) ↔
      ∃ middle, Passes pass repetition.least start middle ∧
        ∃ extra, (∀ most ∈ repetition.most, extra ≤ most - repetition.least) ∧
          Passes pass extra middle stop := by
  constructor
  · rintro ⟨count, ⟨enough, limit⟩, passed⟩
    rcases Nat.exists_eq_add_of_le enough with ⟨extra, rfl⟩
    rcases (passes_add _ _).1 passed with ⟨middle, first, others⟩
    refine ⟨middle, first, extra, ?_, others⟩
    intro most given
    have limit := limit most given
    omega
  · rintro ⟨middle, first, extra, limit, others⟩
    refine ⟨repetition.least + extra, ⟨Nat.le_add_right _ _, ?_⟩,
      (passes_add _ _).2 ⟨middle, first, others⟩⟩
    intro most given more
    have limit := limit most given
    omega

/-- The passes of a repetition are as many as it allows. -/
theorem Plan.matches_iterate_iff (nullable : Bool) (repetition : Repetition)
    (body : Plan) :
    (body.iterate nullable repetition).Matches text start stop ↔
      ∃ count, repetition.Allows count ∧
        Passes (body.Matches text) count start stop := by
  rw [repetition.exists_allows_iff]
  rcases repetition with ⟨least, _ | most, greedy⟩
  · rw [body.matches_iterate_none nullable greedy least]
    simp
  · rw [body.matches_iterate_some nullable greedy least most]
    simp

/-- The plan of an expression matches where the expression matches. -/
theorem Regex.matches_plan_iff (regex : Regex) :
    regex.plan.Matches text start stop ↔ regex.Matches text start stop := by
  induction regex generalizing start stop with
  | empty | one | assertion => exact Iff.rfl
  | group _ _ hypothesis => exact hypothesis
  | seq left right leftHypothesis rightHypothesis =>
      exact exists_congr fun middle =>
        and_congr leftHypothesis rightHypothesis
  | alt left right leftHypothesis rightHypothesis =>
      exact or_congr leftHypothesis rightHypothesis
  | iterate body repetition hypothesis =>
      have same : body.plan.Matches text = body.Matches text :=
        funext fun _ => funext fun _ => propext hypothesis
      rw [plan, Plan.matches_iterate_iff, same]
      rfl

end Plans

namespace Regex

/-- Expressions match between two places one behind the other. -/
def AllMatch (text : Text) : List Regex → Nat → Nat → Prop
  | [], start, stop => start = stop
  | regex :: regexes, start, stop =>
      ∃ middle, regex.Matches text start middle ∧
        AllMatch text regexes middle stop

variable {text : Text} {start stop : Nat}

theorem allMatch_singleton (regex : Regex) :
    AllMatch text [regex] start stop ↔ regex.Matches text start stop := by
  constructor
  · rintro ⟨_, found, rfl⟩
    exact found
  · intro found
    exact ⟨stop, found, rfl⟩

theorem allMatch_append (left right : List Regex) :
    AllMatch text (left ++ right) start stop ↔
      ∃ middle, AllMatch text left start middle ∧
        AllMatch text right middle stop := by
  induction left generalizing start with
  | nil => simp [AllMatch]
  | cons regex left hypothesis =>
      simp only [List.cons_append, AllMatch, hypothesis]
      constructor
      · rintro ⟨next, found, middle, others, rest⟩
        exact ⟨middle, ⟨next, found, others⟩, rest⟩
      · rintro ⟨middle, ⟨next, found, others⟩, rest⟩
        exact ⟨next, found, middle, others, rest⟩

/-- A sequence matches as its items do. -/
theorem allMatch_items (regex : Regex) :
    AllMatch text regex.items start stop ↔ regex.Matches text start stop := by
  induction regex generalizing start stop with
  | seq left right leftHypothesis rightHypothesis =>
      rw [items, allMatch_append]
      exact exists_congr fun middle =>
        and_congr leftHypothesis rightHypothesis
  | empty => exact Iff.rfl
  | one | assertion | group | alt | iterate => exact allMatch_singleton _

theorem matches_chain_iff (regexes : List Regex) :
    (chain regexes).Matches text start stop ↔
      AllMatch text regexes start stop := by
  fun_induction chain regexes generalizing start with
  | case1 => exact Iff.rfl
  | case2 regex => exact (allMatch_singleton regex).symm
  | case3 first second rest hypothesis =>
      exact exists_congr fun middle => and_congr_right fun _ => hypothesis

/-- Expressions put into a sequence match one behind the other. -/
theorem matches_sequence_iff (regexes : List Regex) :
    (sequence regexes).Matches text start stop ↔
      AllMatch text regexes start stop := by
  rw [sequence, matches_chain_iff]
  induction regexes generalizing start with
  | nil => exact Iff.rfl
  | cons regex regexes hypothesis =>
      rw [List.flatMap_cons, allMatch_append]
      exact exists_congr fun middle =>
        and_congr (allMatch_items regex) hypothesis

/-- Behind the assertion that the text starts, all matches begin there. -/
theorem matches_textStart_iff (body : Regex) :
    (sequence [.assertion .textStart, body]).Matches text start stop ↔
      start = 0 ∧ body.Matches text 0 stop := by
  rw [matches_sequence_iff]
  constructor
  · rintro ⟨_, ⟨rfl, begins⟩, found⟩
    have atStart : start = 0 := beq_iff_eq.1 begins
    cases atStart
    exact ⟨rfl, (allMatch_singleton body).1 found⟩
  · rintro ⟨rfl, found⟩
    exact ⟨0, ⟨rfl, rfl⟩, (allMatch_singleton body).2 found⟩

end Regex

end BayesLex
