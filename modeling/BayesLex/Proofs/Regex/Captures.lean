import BayesLex.Regex.Automaton

/-!
# Invariants of a search

What every step of a thread keeps is carried along the frontier of a place and
along the places of the text, up to the match that is found
(`Automaton.InvariantIn`).

A first invariant holds of every automaton: a match found in a text ends inside
the text, and none of its capture groups ends behind it.
-/

namespace BayesLex

/-- The threads that go on after a step. -/
def Step.threads : Step → List Thread
  | accept | fail => []
  | go next | pass _ next => [next]
  | fork _ first second => [first, second]

/-- The threads that go on at the same place. -/
def Step.here : Step → List Thread
  | accept | fail | pass _ _ => []
  | go next => [next]
  | fork _ first second => [first, second]

theorem Step.here_subset_threads (step : Step) : step.here ⊆ step.threads := by
  cases step <;> simp [here, threads]

namespace Frontier

/--
What holds of the threads at a place holds of the frontier they come to.  The
property `alive` is kept by every step at the place, threads that pass the
next character have the property `ahead`, and the captures of a thread that
has done its tasks have the property `final`.
-/
theorem follow_preserves (place : Place) (alive ahead : Thread → Prop)
    (final : Captures → Prop)
    (onAccept : ∀ thread, alive thread → thread.step place = .accept →
      final thread.captures)
    (onStay : ∀ thread next, alive thread → next ∈ (thread.step place).here →
      alive next)
    (onPass : ∀ thread state next, alive thread →
      thread.step place = .pass state next → ahead next)
    (fuel : Nat) (threads : List Thread) (frontier : Frontier)
    (threadsAlive : ∀ thread ∈ threads, alive thread)
    (passedAhead : ∀ thread ∈ frontier.passed, ahead thread)
    (acceptedFinal : ∀ captures ∈ frontier.accepted, final captures) :
    (∀ thread ∈ (follow place fuel threads frontier).passed, ahead thread) ∧
      ∀ captures ∈ (follow place fuel threads frontier).accepted,
        final captures := by
  induction fuel generalizing threads frontier with
  | zero => exact ⟨passedAhead, acceptedFinal⟩
  | succ fuel hypothesis =>
      cases threads with
      | nil => exact ⟨passedAhead, acceptedFinal⟩
      | cons thread threads =>
          rw [List.forall_mem_cons] at threadsAlive
          rcases threadsAlive with ⟨threadAlive, othersAlive⟩
          cases outcome : thread.step place with
          | accept =>
              simp only [follow, outcome]
              refine ⟨passedAhead, ?_⟩
              rintro captures ⟨⟩
              exact onAccept thread threadAlive outcome
          | fail =>
              simp only [follow, outcome]
              exact hypothesis threads frontier othersAlive passedAhead
                acceptedFinal
          | go next =>
              have nextAlive : alive next :=
                onStay thread next threadAlive (by simp [outcome, Step.here])
              simp only [follow, outcome]
              exact hypothesis (next :: threads) frontier
                (List.forall_mem_cons.2 ⟨nextAlive, othersAlive⟩) passedAhead
                acceptedFinal
          | pass state next =>
              simp only [follow, outcome]
              split
              · exact hypothesis threads frontier othersAlive passedAhead
                  acceptedFinal
              · refine hypothesis threads _ othersAlive ?_ acceptedFinal
                exact List.forall_mem_cons.2
                  ⟨onPass thread state next threadAlive outcome, passedAhead⟩
          | fork state first second =>
              simp only [follow, outcome]
              split
              · exact hypothesis threads frontier othersAlive passedAhead
                  acceptedFinal
              · have firstAlive : alive first :=
                  onStay thread first threadAlive (by simp [outcome, Step.here])
                have secondAlive : alive second :=
                  onStay thread second threadAlive
                    (by simp [outcome, Step.here])
                refine hypothesis (first :: second :: threads) _ ?_ passedAhead
                  acceptedFinal
                exact List.forall_mem_cons.2
                  ⟨firstAlive, List.forall_mem_cons.2 ⟨secondAlive, othersAlive⟩⟩

end Frontier

/-- The place of a text behind so many of its characters. -/
def Place.of (text : Text) (index : Nat) : Place where
  taken := index
  before := if index = 0 then none else text[index - 1]?
  after := text[index]?

theorem Place.start_eq_of (text : Text) : Place.start text = of text 0 := by
  simp [Place.start, of, List.head?_eq_getElem?]

theorem Place.pass_of (text : Text) (index : Nat) :
    (of text index).pass (text.drop (index + 1)) = of text (index + 1) := by
  simp [Place.pass, of, List.head?_drop]

namespace Automaton

/--
A property of the threads at the places of a text that a search of the text
keeps, and a property that the captures of a match have where it ends.  Places
are told by the number of the characters before them.
-/
structure InvariantIn (automaton : Automaton) (text : Text)
    (alive : Nat → Thread → Prop) (final : Nat → Captures → Prop) : Prop where
  start : ∀ index best, automaton.begins (Place.of text index) best = true →
    alive index (Thread.start automaton.plan)
  stay : ∀ index thread next, alive index thread →
    next ∈ (thread.step (Place.of text index)).here → alive index next
  pass : ∀ index thread state next, alive index thread →
    thread.step (Place.of text index) = .pass state next →
    alive (index + 1) next
  accept : ∀ index thread, alive index thread →
    thread.step (Place.of text index) = .accept → final index thread.captures

namespace InvariantIn

variable {automaton : Automaton} {text : Text} {alive : Nat → Thread → Prop}
  {final : Nat → Captures → Prop}

theorem arrive (invariant : automaton.InvariantIn text alive final)
    (index : Nat) (threads : List Thread) (best : Option Run)
    (threadsAlive : ∀ thread ∈ threads, alive index thread) :
    (∀ thread ∈ (automaton.arrive (Place.of text index) threads best).passed,
        alive (index + 1) thread) ∧
      ∀ captures ∈
          (automaton.arrive (Place.of text index) threads best).accepted,
        final index captures := by
  apply Frontier.follow_preserves (Place.of text index) (alive index)
    (alive (index + 1)) (final index)
  · exact invariant.accept index
  · exact invariant.stay index
  · exact invariant.pass index
  · split
    · rename_i begins
      intro thread member
      rcases List.mem_append.1 member with old | new
      · exact threadsAlive thread old
      · rw [List.mem_singleton.1 new]
        exact invariant.start index best begins
    · exact threadsAlive
  · nofun
  · nofun

/-- A match that ends in a text of so many characters, with final captures. -/
def Ends (final : Nat → Captures → Prop) (length : Nat) (run : Run) : Prop :=
  run.taken ≤ length ∧ final run.taken run.captures

theorem ends_update {length : Nat} {place : Place} {frontier : Frontier}
    {best : Option Run} (reached : place.taken ≤ length)
    (accepted : ∀ captures ∈ frontier.accepted, final place.taken captures)
    (bestEnds : ∀ run ∈ best, Ends final length run) :
    ∀ run ∈ update place frontier best, Ends final length run := by
  intro run found
  unfold update at found
  split at found
  · rename_i captures equal
    cases found
    exact ⟨reached, accepted captures equal⟩
  · exact bestEnds run found

/-- By induction on the text that is left to search. -/
theorem ends_search (invariant : automaton.InvariantIn text alive final)
    {rest : Text} {index : Nat} (behind : text.drop index = rest)
    (within : index ≤ text.length) (threads : List Thread) (best : Option Run)
    (threadsAlive : ∀ thread ∈ threads, alive index thread)
    (bestEnds : ∀ run ∈ best, Ends final text.length run) :
    ∀ run ∈ automaton.search rest (Place.of text index) threads best,
      Ends final text.length run := by
  induction rest generalizing index threads best with
  | nil =>
      have arrived := invariant.arrive index threads best threadsAlive
      exact ends_update within arrived.2 bestEnds
  | cons character rest hypothesis =>
      have arrived := invariant.arrive index threads best threadsAlive
      have updated : ∀ run ∈ update (Place.of text index)
          (automaton.arrive (Place.of text index) threads best) best,
          Ends final text.length run :=
        ends_update within arrived.2 bestEnds
      have inside : index < text.length := by
        have length := congrArg List.length behind
        rw [List.length_drop, List.length_cons] at length
        omega
      have next : text.drop (index + 1) = rest := by
        rw [← List.drop_drop, behind, List.drop_one, List.tail_cons]
      simp only [search]
      split
      · exact updated
      · rw [← next, Place.pass_of, next]
        apply hypothesis next inside _ _ _ updated
        intro thread member
        exact arrived.1 thread (List.mem_reverse.1 member)

/-- What an invariant says of a match holds of the one that is found. -/
theorem find? (invariant : automaton.InvariantIn text alive final) {run : Run}
    (found : automaton.find? text = some run) :
    run.taken ≤ text.length ∧ final run.taken run.captures := by
  rw [Automaton.find?, Place.start_eq_of] at found
  exact invariant.ends_search List.drop_zero (Nat.zero_le _) [] none nofun nofun
    run found

end InvariantIn

/-- An invariant of a search of any text. -/
structure Invariant (automaton : Automaton) (alive : Nat → Thread → Prop)
    (final : Nat → Captures → Prop) : Prop where
  start : ∀ place best, automaton.begins place best = true →
    alive place.taken (Thread.start automaton.plan)
  step : ∀ place thread next, alive place.taken thread →
    next ∈ (thread.step place).threads → alive place.taken next
  pass : ∀ place thread state next, alive place.taken thread →
    thread.step place = .pass state next → alive (place.taken + 1) next
  accept : ∀ place thread, alive place.taken thread →
    thread.step place = .accept → final place.taken thread.captures

namespace Invariant

variable {automaton : Automaton} {alive : Nat → Thread → Prop}
  {final : Nat → Captures → Prop}

theorem inText (invariant : automaton.Invariant alive final) (text : Text) :
    automaton.InvariantIn text alive final where
  start index := invariant.start (Place.of text index)
  stay index thread next kept goesOn :=
    invariant.step (Place.of text index) thread next kept
      ((thread.step (Place.of text index)).here_subset_threads goesOn)
  pass index := invariant.pass (Place.of text index)
  accept index := invariant.accept (Place.of text index)

theorem find? (invariant : automaton.Invariant alive final) {text : Text}
    {run : Run} (found : automaton.find? text = some run) :
    run.taken ≤ text.length ∧ final run.taken run.captures :=
  (invariant.inText text).find? found

end Invariant

end Automaton

/-- No capture ends behind a place. -/
def Captures.Within (captures : Captures) (bound : Nat) : Prop :=
  ∀ entry ∈ captures, entry.2.stop ≤ bound

theorem Captures.Within.mono {captures : Captures} {bound bound' : Nat}
    (inside : captures.Within bound) (below : bound ≤ bound') :
    captures.Within bound' := by
  intro entry member
  exact Nat.le_trans (inside entry member) below

namespace Thread

theorem captures_offer (thread next : Thread) (state : Nat) (greedy : Bool)
    (more tasks : List Task)
    (goesOn : next ∈ (thread.offer state greedy more tasks).threads) :
    next.captures = thread.captures := by
  cases greedy <;>
    simp only [offer, doing, Step.threads, List.mem_cons, List.not_mem_nil,
      or_false, Bool.false_eq_true, if_true, if_false] at goesOn <;>
    rcases goesOn with rfl | rfl <;> rfl

/-- To enter a plan adds no capture. -/
theorem captures_enter (place : Place) (thread next : Thread) (base : Nat)
    (tasks : List Task) (plan : Plan)
    (goesOn : next ∈ (thread.enter place base tasks plan).threads) :
    next.captures = thread.captures := by
  unfold enter at goesOn
  split at goesOn
  case h_2 | h_3 =>
    split at goesOn
    · rw [List.mem_singleton.1 goesOn]
      rfl
    · cases goesOn
  case h_6 =>
    rcases List.mem_cons.1 goesOn with rfl | goesOn
    · rfl
    · rw [List.mem_singleton.1 goesOn]
      rfl
  case h_10 | h_11 => exact captures_offer _ _ _ _ _ _ goesOn
  all_goals
    rw [List.mem_singleton.1 goesOn]
    rfl

/-- A step keeps the captures of a thread, or adds one that ends at the place. -/
theorem captures_step (place : Place) (thread next : Thread)
    (goesOn : next ∈ (thread.step place).threads) :
    next.captures = thread.captures ∨
      ∃ index start, next.captures =
        (index, { start, stop := place.taken }) :: thread.captures := by
  unfold step at goesOn
  split at goesOn
  · cases goesOn
  · exact Or.inl (captures_enter _ _ _ _ _ _ goesOn)
  · exact Or.inl (captures_offer _ _ _ _ _ _ goesOn)
  · rename_i index start tasks _
    exact Or.inr ⟨index, start, by rw [List.mem_singleton.1 goesOn]⟩

theorem within_step {place : Place} {thread next : Thread}
    (inside : thread.captures.Within place.taken)
    (goesOn : next ∈ (thread.step place).threads) :
    next.captures.Within place.taken := by
  rcases captures_step place thread next goesOn with
    same | ⟨index, start, added⟩
  · rwa [same]
  · rw [added]
    exact List.forall_mem_cons.2 ⟨Nat.le_refl _, inside⟩

end Thread

/-- A match that ends within a text, with all its groups before its end. -/
structure Run.Fits (run : Run) (text : Text) : Prop where
  taken_le : run.taken ≤ text.length
  captures_within : run.captures.Within run.taken

theorem Run.Fits.stop_le {run : Run} {text : Text} {index : Nat}
    {capture : Capture} (fits : run.Fits text)
    (found : run.group? index = some capture) :
    capture.stop ≤ run.taken := by
  rcases List.lookup_eq_some_iff.1 found with ⟨before, after, equal, _⟩
  exact fits.captures_within (index, capture) (by simp [equal])

namespace Automaton

/-- The captures of every thread end before the place where it is. -/
theorem invariant_within (automaton : Automaton) :
    automaton.Invariant
      (fun taken thread => thread.captures.Within taken)
      (fun taken captures => captures.Within taken) where
  start _ _ _ := nofun
  step _ _ _ inside goesOn := Thread.within_step inside goesOn
  pass place thread state next inside outcome := by
    have kept : next.captures.Within place.taken :=
      Thread.within_step inside (by simp [outcome, Step.threads])
    exact kept.mono (Nat.le_succ place.taken)
  accept _ _ inside _ := inside

/-- A match found in a text ends within it, and so do its groups. -/
theorem fits_find? (automaton : Automaton) (text : Text) (run : Run)
    (found : automaton.find? text = some run) :
    run.Fits text := by
  rcases automaton.invariant_within.find? found with ⟨reached, inside⟩
  exact ⟨reached, inside⟩

end Automaton

end BayesLex
