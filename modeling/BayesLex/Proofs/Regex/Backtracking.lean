import BayesLex.Proofs.Regex.Captures

/-!
# Backtracking

`Thread.Yields` describes a search that follows each thread to its end before
it turns to the next one and remembers nothing: the runs it finds are listed
in the order of preference.  This is how a match of an expression is commonly
defined, and it is defined here for every thread for which that search comes
to an end.

Beside the runs the relation counts the steps taken at the place where the
thread stands, and bounds the steps taken at any later place.

Where a group began is not looked at before the group ends, so threads that
differ in nothing else have the same shape, and their searches agree in
everything but the captures.
-/

namespace BayesLex

/-- A task without the place where its group began. -/
def Task.shape : Task → Task
  | enter base plan => .enter base plan
  | again base greedy body => .again base greedy body
  | close index _ => .close index 0

/-- A thread without its captures and the places where its groups began. -/
def Thread.shape (thread : Thread) : Thread where
  tasks := thread.tasks.map Task.shape
  captures := []

/-- A step without captures and the places where groups began. -/
def Step.shape : Step → Step
  | accept => .accept
  | fail => .fail
  | go next => .go next.shape
  | pass state next => .pass state next.shape
  | fork state first second => .fork state first.shape second.shape

/-- The state that is entered by a step. -/
def Step.state? : Step → Option Nat
  | accept | fail | go _ => none
  | pass state _ | fork state _ _ => some state

@[simp]
theorem Task.map_shape_map_shape (tasks : List Task) :
    (tasks.map shape).map shape = tasks.map shape := by
  rw [List.map_map]
  apply List.map_congr_left
  intro task _
  cases task <;> rfl

namespace Thread

theorem shape_doing (thread : Thread) (tasks : List Task) :
    (thread.doing tasks).shape =
      { tasks := tasks.map Task.shape, captures := [] } := rfl

theorem shape_offer (thread : Thread) (state : Nat) (greedy : Bool)
    (more tasks : List Task) :
    (thread.offer state greedy more tasks).shape =
      (thread.shape.offer state greedy (more.map Task.shape)
        (tasks.map Task.shape)).shape := by
  cases greedy <;> simp [offer, Step.shape, shape_doing, ← List.map_append,
    -List.map_map]

theorem shape_enter (place : Place) (thread : Thread) (base : Nat)
    (tasks : List Task) (plan : Plan) :
    (thread.enter place base tasks plan).shape =
      (thread.shape.enter place base (tasks.map Task.shape) plan).shape := by
  cases plan with
  | skip | capture | seq | choose | loop =>
      simp [enter, Step.shape, shape_doing, Task.shape, -List.map_map]
  | read | check =>
      simp only [enter]
      split <;> simp [Step.shape, shape_doing, -List.map_map]
  | times count width body =>
      cases count <;>
        simp [enter, Step.shape, shape_doing, Task.shape, -List.map_map]
  | upTo count width greedy body =>
      cases count with
      | zero => simp [enter, Step.shape, shape_doing, -List.map_map]
      | succ count => exact shape_offer _ _ _ _ _
  | star greedy body => exact shape_offer _ _ _ _ _

/-- Steps of threads of the same shape have the same shape. -/
theorem shape_step (place : Place) (thread : Thread) :
    (thread.step place).shape = (thread.shape.step place).shape := by
  rcases thread with ⟨tasks, captures⟩
  cases tasks with
  | nil => rfl
  | cons task tasks =>
      cases task with
      | enter base plan => exact shape_enter _ _ _ _ _
      | again base greedy body => exact shape_offer _ _ _ _ _
      | close index start =>
          simp only [step, shape, List.map_cons, Task.shape, Step.shape,
            Task.map_shape_map_shape]

/--
The search from a thread at a place, with `text` behind the place: it takes
`now` steps at the place, at most `later` steps at any place behind it, and
finds `runs`, the preferred one first.
-/
inductive Yields : Place → Text → Thread → Nat → Nat → List Run → Prop where
  | accept {place : Place} {text : Text} {thread : Thread} (later : Nat)
      (outcome : thread.step place = .accept) :
      Yields place text thread 1 later
        [{ taken := place.taken, captures := thread.captures }]
  | fail {place : Place} {text : Text} {thread : Thread} (later : Nat)
      (outcome : thread.step place = .fail) :
      Yields place text thread 1 later []
  | go {place : Place} {text : Text} {thread next : Thread} {now later : Nat}
      {runs : List Run} (outcome : thread.step place = .go next)
      (rest : Yields place text next now later runs) :
      Yields place text thread (now + 1) later runs
  | pass {place : Place} {character : Char} {text : Text}
      {thread next : Thread} {state now ahead later : Nat} {runs : List Run}
      (outcome : thread.step place = .pass state next)
      (rest : Yields (place.pass text) text next now ahead runs)
      (nowLe : now ≤ later) (aheadLe : ahead ≤ later) :
      Yields place (character :: text) thread 1 later runs
  | fork {place : Place} {text : Text} {thread first second : Thread}
      {state now now' later later' : Nat} {runs runs' : List Run}
      (outcome : thread.step place = .fork state first second)
      (preferred : Yields place text first now later runs)
      (other : Yields place text second now' later' runs') :
      Yields place text thread (now + now' + 1) (later + later')
        (runs ++ runs')

/-- The search from a thread goes on as its first step says. -/
theorem Yields.cases_step {place : Place} {text : Text} {thread : Thread}
    {now later : Nat} {runs : List Run}
    (yields : thread.Yields place text now later runs) :
    match thread.step place with
    | .accept =>
        now = 1 ∧
          runs = [{ taken := place.taken, captures := thread.captures }]
    | .fail => now = 1 ∧ runs = []
    | .go next => ∃ now', now = now' + 1 ∧
        next.Yields place text now' later runs
    | .pass _ next => now = 1 ∧ ∃ character rest now' ahead,
        text = character :: rest ∧ now' ≤ later ∧ ahead ≤ later ∧
          next.Yields (place.pass rest) rest now' ahead runs
    | .fork _ first second => ∃ now' now'' later' later'' runs' runs'',
        now = now' + now'' + 1 ∧ later = later' + later'' ∧
          runs = runs' ++ runs'' ∧ first.Yields place text now' later' runs' ∧
          second.Yields place text now'' later'' runs'' := by
  cases yields with
  | accept later outcome | fail later outcome =>
      rw [outcome]
      exact ⟨rfl, rfl⟩
  | go outcome rest =>
      rw [outcome]
      exact ⟨_, rfl, rest⟩
  | pass outcome rest nowLe aheadLe =>
      rw [outcome]
      exact ⟨rfl, _, _, _, _, rfl, nowLe, aheadLe, rest⟩
  | fork outcome preferred other =>
      rw [outcome]
      exact ⟨_, _, _, _, _, _, rfl, rfl, rfl, preferred, other⟩

/-- Every search takes a step where it begins. -/
theorem Yields.now_pos {place : Place} {text : Text} {thread : Thread}
    {now later : Nat} {runs : List Run}
    (yields : thread.Yields place text now later runs) : 0 < now := by
  cases yields <;> exact Nat.succ_pos _

theorem shape_step_eq {thread other : Thread}
    (same : other.shape = thread.shape) (place : Place) :
    (other.step place).shape = (thread.step place).shape := by
  rw [shape_step, same, ← shape_step]

/--
Threads of the same shape take the same number of steps, and one of them
finds a run if and only if the other one does.
-/
theorem Yields.of_shape {place : Place} {text : Text} {thread other : Thread}
    {now now' later later' : Nat} {runs runs' : List Run}
    (yields : thread.Yields place text now later runs)
    (same : other.shape = thread.shape)
    (yields' : other.Yields place text now' later' runs') :
    now' = now ∧ (runs' = [] ↔ runs = []) := by
  induction yields generalizing other now' later' runs' with
  | @accept place text thread later outcome =>
      have steps := shape_step_eq same place
      have inverted := yields'.cases_step
      cases outcome' : other.step place <;> rw [outcome, outcome'] at steps <;>
        cases steps
      rw [outcome'] at inverted
      rcases inverted with ⟨rfl, rfl⟩
      exact ⟨rfl, by simp⟩
  | @fail place text thread later outcome =>
      have steps := shape_step_eq same place
      have inverted := yields'.cases_step
      cases outcome' : other.step place <;> rw [outcome, outcome'] at steps <;>
        cases steps
      rw [outcome'] at inverted
      rcases inverted with ⟨rfl, rfl⟩
      exact ⟨rfl, by simp⟩
  | @go place text thread next now later runs outcome rest hypothesis =>
      have steps := shape_step_eq same place
      have inverted := yields'.cases_step
      cases outcome' : other.step place <;> rw [outcome, outcome'] at steps <;>
        simp only [Step.shape, Step.go.injEq, reduceCtorEq] at steps
      rw [outcome'] at inverted
      rcases inverted with ⟨nowNext, rfl, yieldsNext⟩
      rcases hypothesis steps yieldsNext with ⟨rfl, found⟩
      exact ⟨rfl, found⟩
  | @pass place character text thread next state now ahead later runs outcome
      rest nowLe aheadLe hypothesis =>
      have steps := shape_step_eq same place
      have inverted := yields'.cases_step
      cases outcome' : other.step place <;> rw [outcome, outcome'] at steps <;>
        simp only [Step.shape, Step.pass.injEq, reduceCtorEq] at steps
      rw [outcome'] at inverted
      rcases inverted with ⟨rfl, _, _, _, _, equal, _, _, yieldsNext⟩
      cases equal
      exact ⟨rfl, (hypothesis steps.2 yieldsNext).2⟩
  | @fork place text thread first second state _ _ _ _ _ _ outcome _ _
      firstHypothesis secondHypothesis =>
      have steps := shape_step_eq same place
      have inverted := yields'.cases_step
      cases outcome' : other.step place <;> rw [outcome, outcome'] at steps <;>
        simp only [Step.shape, Step.fork.injEq, reduceCtorEq] at steps
      rw [outcome'] at inverted
      rcases inverted with
        ⟨_, _, _, _, _, _, rfl, rfl, rfl, yieldsFirst, yieldsSecond⟩
      rcases firstHypothesis steps.2.1 yieldsFirst with ⟨rfl, foundFirst⟩
      rcases secondHypothesis steps.2.2 yieldsSecond with ⟨rfl, foundSecond⟩
      exact ⟨rfl, by simp [foundFirst, foundSecond]⟩

/-- The searches from several threads, one after the other. -/
inductive AllYield (place : Place) (text : Text) :
    List Thread → Nat → Nat → List Run → Prop where
  | nil : AllYield place text [] 0 0 []
  | cons {thread : Thread} {threads : List Thread}
      {now now' later later' : Nat} {runs runs' : List Run}
      (first : thread.Yields place text now later runs)
      (others : AllYield place text threads now' later' runs') :
      AllYield place text (thread :: threads) (now + now') (later + later')
        (runs ++ runs')

theorem AllYield.append {place : Place} {text : Text}
    {threads threads' : List Thread} {now now' later later' : Nat}
    {runs runs' : List Run}
    (left : AllYield place text threads now later runs)
    (right : AllYield place text threads' now' later' runs') :
    AllYield place text (threads ++ threads') (now + now') (later + later')
      (runs ++ runs') := by
  induction left with
  | nil => simpa using right
  | cons first others hypothesis =>
      rw [Nat.add_assoc, Nat.add_assoc, List.append_assoc]
      exact .cons first hypothesis

theorem AllYield.single {place : Place} {text : Text} {thread : Thread}
    {now later : Nat} {runs : List Run}
    (yields : thread.Yields place text now later runs) :
    AllYield place text [thread] now later runs := by
  simpa using AllYield.cons yields .nil

end Thread

end BayesLex
