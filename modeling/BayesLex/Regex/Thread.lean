import BayesLex.Regex.Place
import BayesLex.Regex.Plan

/-!
# Threads

A thread is a match as far as it has been found: the tasks that are left of a
plan, and the captures on the way.  `Thread.step` does the first task.

`Frontier.follow` works through the threads at one place, the preferred one
first, until each of them has passed the next character, has failed or has
done its tasks.  Threads in the same state go on alike, so no state is entered
twice at one place: only the preferred thread that comes to it goes on.  In
particular a repetition whose body matches nothing comes to an end.  A thread
that has done its tasks makes all threads behind it pointless.
-/

namespace BayesLex

/-- The places, counted in characters, between which a capture group matched. -/
structure Capture where
  start : Nat
  stop : Nat
  deriving DecidableEq

/-- The captures on the way by the number of their group, latest first. -/
abbrev Captures := List (Nat × Capture)

/-- A task of a thread. -/
inductive Task where
  /-- Match a plan whose states begin at `base`. -/
  | enter (base : Nat) (plan : Plan)
  /-- Decide behind a pass whether to go on, in the state `base`. -/
  | again (base : Nat) (greedy : Bool) (body : Plan)
  /-- A capture group ends that began at the place `start`. -/
  | close (index start : Nat)
  deriving DecidableEq

/-- A match as far as it has been found. -/
structure Thread where
  tasks : List Task
  captures : Captures
  deriving DecidableEq

/-- What becomes of a thread by its first task. -/
inductive Step where
  /-- No task is left. -/
  | accept
  /-- The match fails. -/
  | fail
  | go (next : Thread)
  /-- In this state the next character is passed, and then `next` goes on. -/
  | pass (state : Nat) (next : Thread)
  /-- In this state two threads go on, the first preferred. -/
  | fork (state : Nat) (first second : Thread)
  deriving DecidableEq

namespace Thread

/-- The thread of a match that begins with a plan. -/
def start (plan : Plan) : Thread where
  tasks := [.enter 0 plan]
  captures := []

/-- The same captures with other tasks. -/
@[inline]
def doing (thread : Thread) (tasks : List Task) : Thread :=
  { thread with tasks }

/-- Do one pass more before the tasks, or go on with them at once. -/
@[inline]
def offer (thread : Thread) (state : Nat) (greedy : Bool)
    (more : List Task) (tasks : List Task) : Step :=
  if greedy then
    .fork state (thread.doing (more ++ tasks)) (thread.doing tasks)
  else
    .fork state (thread.doing tasks) (thread.doing (more ++ tasks))

/-- Match a plan whose states begin at `base`, and then do the tasks. -/
@[inline]
def enter (place : Place) (thread : Thread) (base : Nat) (tasks : List Task) :
    Plan → Step
  | .skip => .go (thread.doing tasks)
  | .read set =>
      if place.after.any set.contains then
        .pass base (thread.doing tasks)
      else
        .fail
  | .check condition =>
      if place.satisfies condition then .go (thread.doing tasks) else .fail
  | .capture index body =>
      .go (thread.doing (.enter base body :: .close index place.taken :: tasks))
  | .seq left offset right =>
      .go (thread.doing (.enter base left :: .enter (base + offset) right :: tasks))
  | .choose first offset second =>
      .fork base (thread.doing (.enter (base + 1) first :: tasks))
        (thread.doing (.enter (base + offset) second :: tasks))
  | .times 0 _ _ => .go (thread.doing tasks)
  | .times (count + 1) width body =>
      .go (thread.doing
        (.enter base body :: .enter (base + width) (.times count width body) ::
          tasks))
  | .upTo 0 _ _ _ => .go (thread.doing tasks)
  | .upTo (count + 1) width greedy body =>
      thread.offer base greedy
        [.enter (base + 1) body,
          .enter (base + width + 1) (.upTo count width greedy body)]
        tasks
  | .star greedy body =>
      thread.offer base greedy
        [.enter (base + 1) body, .enter base (.star greedy body)] tasks
  | .loop greedy body =>
      .go (thread.doing (.enter (base + 1) body :: .again base greedy body :: tasks))

/-- Do the first task at a place. -/
@[inline]
def step (place : Place) (thread : Thread) : Step :=
  match thread.tasks with
  | [] => .accept
  | .enter base plan :: tasks => thread.enter place base tasks plan
  | .again base greedy body :: tasks =>
      thread.offer base greedy
        [.enter (base + 1) body, .again base greedy body] tasks
  | .close index start :: tasks =>
      .go
        { tasks
          captures := (index, { start, stop := place.taken }) :: thread.captures }

end Thread

/-- A set of states: the bits of a number. -/
structure States where
  bits : Nat := 0
  deriving DecidableEq

namespace States

/-- Whether a state belongs to the set. -/
def contains (states : States) (state : Nat) : Bool :=
  states.bits.testBit state

/-- Add a state to the set. -/
def insert (states : States) (state : Nat) : States where
  bits := states.bits ||| 1 <<< state

@[simp]
theorem contains_empty (state : Nat) : contains {} state = false := by
  simp [contains]

@[simp]
theorem contains_insert (states : States) (state other : Nat) :
    (states.insert state).contains other =
      (states.contains other || decide (state = other)) := by
  simp [contains, insert, Nat.one_shiftLeft, Nat.testBit_or,
    Nat.testBit_two_pow]

end States

/-- What the threads at one place have come to. -/
structure Frontier where
  /-- The states entered at the place. -/
  entered : States := {}
  /-- The threads that have passed the next character, the preferred one last. -/
  passed : List Thread := []
  /-- The captures of the first thread that has done its tasks. -/
  accepted : Option Captures := none
  deriving DecidableEq

namespace Frontier

/--
Work through the threads at a place, the preferred one first, with at most
`fuel` steps.
-/
def follow (place : Place) : Nat → List Thread → Frontier → Frontier
  | 0, _, frontier => frontier
  | _ + 1, [], frontier => frontier
  | fuel + 1, thread :: threads, frontier =>
      match thread.step place with
      | .accept => { frontier with accepted := some thread.captures }
      | .fail => follow place fuel threads frontier
      | .go next => follow place fuel (next :: threads) frontier
      | .pass state next =>
          if frontier.entered.contains state then
            follow place fuel threads frontier
          else
            follow place fuel threads
              { frontier with
                entered := frontier.entered.insert state
                passed := next :: frontier.passed }
      | .fork state first second =>
          if frontier.entered.contains state then
            follow place fuel threads frontier
          else
            follow place fuel (first :: second :: threads)
              { frontier with entered := frontier.entered.insert state }

end Frontier

end BayesLex
