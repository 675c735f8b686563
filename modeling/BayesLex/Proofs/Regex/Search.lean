import BayesLex.Proofs.Regex.Backtracking

/-!
# The search in step finds what backtracking finds

An automaton follows all its threads through the text at the same time and
drops a thread that comes to a state which has been entered at the place
before.  The main statement is that, nevertheless, it finds the first run of a
search by backtracking (`Automaton.search_eq_head?`).

Two facts carry it.  A state determines the tasks that are left, up to the
places where groups began (`Labelling`), so what a dropped thread could find
has been found, or will be found, by the thread that entered the state first.
And that one is preferred, because a thread cannot come to its own state again
while it is still followed at the same place: its search would be longer than
itself.
-/

namespace BayesLex

open Thread

/-- A state determines the tasks of the threads that enter it. -/
structure Labelling (labels : Nat → List Task) (alive : Thread → Prop) :
    Prop where
  step : ∀ place thread next, alive thread →
    next ∈ (thread.step place).threads → alive next
  label : ∀ place thread state, alive thread →
    (thread.step place).state? = some state →
    thread.tasks.map Task.shape = labels state

namespace Frontier

/--
A state is settled when the threads that are left of the search from it stand
in front of all others, and a run of that search is still to be found among
them or has been found before.
-/
def Settled (labels : Nat → List Task) (place : Place) (text : Text)
    (before : List Run) (threads : List Thread) (state : Nat) : Prop :=
  ∀ (thread : Thread) (now later : Nat) (runs : List Run),
    thread.tasks.map Task.shape = labels state →
    thread.Yields place text now later runs →
    ∃ front back now' later' runs', threads = front ++ back ∧
      AllYield place text front now' later' runs' ∧ now' < now ∧
      (runs ≠ [] → before ++ runs' ≠ [])

/-- A settled state stays settled when a thread gives way to what follows it. -/
theorem Settled.replace {labels : Nat → List Task} {place : Place}
    {text : Text} {before before' : List Run} {thread : Thread}
    {threads others : List Thread} {state now now' later later' : Nat}
    {runs runs' : List Run}
    (settled : Settled labels place text before (thread :: others) state)
    (yields : thread.Yields place text now later runs)
    (followed : AllYield place text threads now' later' runs')
    (fewer : now' ≤ now)
    (kept : before ++ runs ≠ [] → before' ++ runs' ≠ [])
    (grown : before ≠ [] → before' ≠ []) :
    Settled labels place text before' (threads ++ others) state := by
  intro entered nowEntered laterEntered runsEntered label yieldsEntered
  rcases settled entered _ _ _ label yieldsEntered with
    ⟨front, back, nowFront, laterFront, runsFront, split, yieldFront, shorter,
      found⟩
  cases yieldFront with
  | nil =>
      refine ⟨[], threads ++ others, 0, 0, [], rfl, .nil, by omega, ?_⟩
      intro finds
      rw [List.append_nil] at found ⊢
      exact grown (found finds)
  | cons first rest =>
      rename_i front nowFirst nowRest laterFirst laterRest runsFirst runsRest
      simp only [List.cons_append, List.cons.injEq] at split
      rcases split with ⟨rfl, rfl⟩
      rcases first.of_shape rfl yields with ⟨rfl, sameFound⟩
      refine ⟨threads ++ front, back, _, _, _, (List.append_assoc ..).symm,
        followed.append rest, by omega, ?_⟩
      intro finds
      have some := found finds
      by_cases nothing : before ++ runs = []
      · simp only [List.append_eq_nil_iff] at nothing
        simp_all
      · have still := kept nothing
        simp only [ne_eq, List.append_eq_nil_iff, not_and] at still ⊢
        grind

section Following

variable {labels : Nat → List Task} {alive : Thread → Prop} {place : Place}
  {text : Text} {limit fuel now later nowAhead laterAhead : Nat}
  {thread : Thread} {threads : List Thread} {frontier : Frontier}
  {runs runsAhead : List Run}

/-- A state that the search from a thread has come to is settled. -/
theorem settled_of_yields {before front : List Run} {state now' later' : Nat}
    {followed : List Thread}
    (label : thread.tasks.map Task.shape = labels state)
    (yields : thread.Yields place text now later runs)
    (others : AllYield place text followed now' later' front)
    (shorter : now' < now) (kept : runs ≠ [] → before ++ front ≠ []) :
    Settled labels place text before (followed ++ threads) state := by
  intro entered nowEntered laterEntered runsEntered labelEntered yieldsEntered
  have same : entered.shape = thread.shape := by
    simp only [Thread.shape, labelEntered, label]
  rcases yields.of_shape same yieldsEntered with ⟨rfl, found⟩
  refine ⟨followed, threads, _, _, _, rfl, others, shorter, ?_⟩
  intro finds
  exact kept (fun nothing => finds (found.2 nothing))

/-- What a thread in a settled state finds has been found before it. -/
theorem Settled.found {before : List Run} {state : Nat}
    (settled : Settled labels place text before (thread :: threads) state)
    (label : thread.tasks.map Task.shape = labels state)
    (yields : thread.Yields place text now later runs) :
    runs ≠ [] → before ≠ [] := by
  rcases settled thread now later runs label yields with
    ⟨front, back, nowFront, laterFront, runsFront, split, yieldFront, shorter,
      found⟩
  cases yieldFront with
  | nil => simpa using found
  | cons first rest =>
      -- the thread would stand in the search from itself
      simp only [List.cons_append, List.cons.injEq] at split
      rcases split with ⟨rfl, _⟩
      have same := (first.of_shape rfl yields).1
      omega

/--
The state of affairs while the threads at a place are followed.  The threads
that wait will find `runs`, those that have passed the next character
`runsAhead`, and all states entered are settled.
-/
structure Following (labels : Nat → List Task) (alive : Thread → Prop)
    (place : Place) (text : Text) (limit fuel : Nat) (threads : List Thread)
    (frontier : Frontier) (now later : Nat) (runs : List Run)
    (nowAhead laterAhead : Nat) (runsAhead : List Run) : Prop where
  here : AllYield place text threads now later runs
  ahead : AllYield (place.pass text.tail) text.tail frontier.passed.reverse
    nowAhead laterAhead runsAhead
  enough : now ≤ fuel
  nowLe : nowAhead + later ≤ limit
  laterLe : laterAhead + later ≤ limit
  threadsAlive : ∀ thread ∈ threads, alive thread
  settled : ∀ state, frontier.entered.contains state = true →
    Settled labels place text runsAhead threads state
  undecided : frontier.accepted = none
  atEnd : text = [] → frontier.passed = []

/-- The first thread gives way to the threads that follow from it. -/
theorem Following.giveWay {followed : List Thread} {states : States}
    {nowFirst laterFirst nowFollowed laterFollowed : Nat}
    {runsFirst runsFollowed : List Run}
    (following : Following labels alive place text limit (fuel + 1)
      (thread :: threads) frontier (nowFirst + now) (laterFirst + later)
      (runsFirst ++ runs) nowAhead laterAhead runsAhead)
    (first : thread.Yields place text nowFirst laterFirst runsFirst)
    (others : AllYield place text threads now later runs)
    (yield : AllYield place text followed nowFollowed laterFollowed
      runsFollowed)
    (shorter : nowFollowed < nowFirst) (lower : laterFollowed ≤ laterFirst)
    (followedAlive : ∀ thread ∈ followed, alive thread)
    (kept : runsAhead ++ runsFirst ≠ [] → runsAhead ++ runsFollowed ≠ [])
    (entered : ∀ state, states.contains state = true →
      frontier.entered.contains state = true ∨
        Settled labels place text runsAhead (followed ++ threads) state) :
    Following labels alive place text limit fuel (followed ++ threads)
      { frontier with entered := states } (nowFollowed + now)
      (laterFollowed + later) (runsFollowed ++ runs) nowAhead laterAhead
      runsAhead where
  here := yield.append others
  ahead := following.ahead
  enough := by
    have enough := following.enough
    omega
  nowLe := by
    have bound := following.nowLe
    omega
  laterLe := by
    have bound := following.laterLe
    omega
  threadsAlive := by
    intro other member
    rcases List.mem_append.1 member with new | old
    · exact followedAlive other new
    · exact following.threadsAlive other (List.mem_cons_of_mem _ old)
  settled := by
    intro state contained
    rcases entered state contained with old | new
    · exact (following.settled state old).replace first yield
        (Nat.le_of_lt shorter) kept id
    · exact new
  undecided := following.undecided
  atEnd := following.atEnd

/-- The first thread passes the next character in a new state. -/
theorem Following.pass {character : Char} {rest : Text} {next : Thread}
    {state nowFirst laterFirst nowNext laterNext : Nat}
    {runsFirst : List Run}
    (following : Following labels alive place (character :: rest) limit
      (fuel + 1) (thread :: threads) frontier (nowFirst + now)
      (laterFirst + later) (runsFirst ++ runs) nowAhead laterAhead runsAhead)
    (label : thread.tasks.map Task.shape = labels state)
    (first : thread.Yields place (character :: rest) nowFirst laterFirst
      runsFirst)
    (others : AllYield place (character :: rest) threads now later runs)
    (yields : next.Yields (place.pass rest) rest nowNext laterNext runsFirst)
    (positive : 0 < nowFirst)
    (nowLower : nowNext ≤ laterFirst) (laterLower : laterNext ≤ laterFirst) :
    Following labels alive place (character :: rest) limit fuel threads
      { frontier with
        entered := frontier.entered.insert state
        passed := next :: frontier.passed }
      now later runs (nowAhead + nowNext) (laterAhead + laterNext)
      (runsAhead ++ runsFirst) where
  here := others
  ahead := by
    rw [List.reverse_cons]
    exact following.ahead.append (AllYield.single yields)
  enough := by
    have enough := following.enough
    omega
  nowLe := by
    have bound := following.nowLe
    omega
  laterLe := by
    have bound := following.laterLe
    omega
  threadsAlive := fun other member =>
    following.threadsAlive other (List.mem_cons_of_mem _ member)
  settled := by
    intro other contained
    rw [States.contains_insert, Bool.or_eq_true, decide_eq_true_eq]
      at contained
    rcases contained with old | rfl
    · exact (following.settled other old).replace first .nil (Nat.zero_le _)
        (fun found => by simpa using found) (fun found => by simp [found])
    · exact settled_of_yields label first .nil positive
        (fun found => by simp [found])
  undecided := following.undecided
  atEnd := by
    intro impossible
    cases impossible

/-- The run of a thread that has done its tasks at a place, if there is one. -/
def finished (place : Place) (frontier : Frontier) : List Run :=
  frontier.accepted.toList.map fun captures =>
    { taken := place.taken, captures }

/--
From a frontier a run is found first: by the threads that have passed the next
character, and else it is the one that has been found at the place.
-/
def Leads (place : Place) (text : Text) (limit : Nat) (frontier : Frontier)
    (target : Option Run) : Prop :=
  ∃ now later runs,
    AllYield (place.pass text.tail) text.tail frontier.passed.reverse
      now later runs ∧
    now ≤ limit ∧ later ≤ limit ∧ (text = [] → frontier.passed = []) ∧
    (runs ++ finished place frontier).head? = target

/-- Where no thread waits, the frontier leads to what is found ahead. -/
theorem Following.leads
    (following : Following labels alive place text limit fuel [] frontier
      now later runs nowAhead laterAhead runsAhead) :
    Leads place text limit frontier (runsAhead ++ runs).head? := by
  refine ⟨nowAhead, laterAhead, runsAhead, following.ahead, ?_, ?_,
    following.atEnd, ?_⟩
  · have bound := following.nowLe
    omega
  · have bound := following.laterLe
    omega
  · cases following.here
    simp [finished, following.undecided]

/-- A thread that comes to a state entered before is dropped without a loss. -/
theorem Following.drop {state nowFirst laterFirst : Nat} {runsFirst : List Run}
    (following : Following labels alive place text limit (fuel + 1)
      (thread :: threads) frontier (nowFirst + now) (laterFirst + later)
      (runsFirst ++ runs) nowAhead laterAhead runsAhead)
    (label : thread.tasks.map Task.shape = labels state)
    (entered : frontier.entered.contains state = true)
    (first : thread.Yields place text nowFirst laterFirst runsFirst)
    (others : AllYield place text threads now later runs)
    (positive : 0 < nowFirst) :
    Following labels alive place text limit fuel threads frontier now later
        runs nowAhead laterAhead runsAhead ∧
      (runsAhead ++ runs).head? =
        (runsAhead ++ (runsFirst ++ runs)).head? := by
  have found : runsFirst ≠ [] → runsAhead ≠ [] :=
    (following.settled state entered).found label first
  constructor
  · have dropped := following.giveWay first others .nil positive
      (Nat.zero_le _) (by rintro _ ⟨⟩)
      (fun some => by grind) (fun _ old => Or.inl old)
    simpa using dropped
  · by_cases nothing : runsFirst = []
    · rw [nothing, List.nil_append]
    · cases runsAhead with
      | nil => exact absurd rfl (found nothing)
      | cons run _ => rfl

/--
Following threads comes to a frontier from which the same run is found first.
-/
theorem Following.follow (labelling : Labelling labels alive)
    (following : Following labels alive place text limit fuel threads frontier
      now later runs nowAhead laterAhead runsAhead) :
    Leads place text limit (Frontier.follow place fuel threads frontier)
      (runsAhead ++ runs).head? := by
  induction fuel generalizing threads frontier now later runs nowAhead
      laterAhead runsAhead with
  | zero =>
      cases following.here with
      | nil => exact following.leads
      | cons first others =>
          have enough := following.enough
          have positive := first.now_pos
          omega
  | succ fuel hypothesis =>
      cases following.here with
      | nil => exact following.leads
      | @cons thread threads nowFirst now laterFirst later runsFirst runs first
          others =>
          have threadAlive := following.threadsAlive thread List.mem_cons_self
          have stepAlive := labelling.step place thread
          have label := labelling.label place thread
          have inverted := first.cases_step
          cases outcome : thread.step place with
          | accept =>
              rw [outcome] at inverted
              rcases inverted with ⟨rfl, rfl⟩
              simp only [Frontier.follow, outcome]
              refine ⟨nowAhead, laterAhead, runsAhead, following.ahead, ?_, ?_,
                following.atEnd, ?_⟩
              · have bound := following.nowLe
                omega
              · have bound := following.laterLe
                omega
              · cases runsAhead <;> rfl
          | fail =>
              rw [outcome] at inverted
              rcases inverted with ⟨rfl, rfl⟩
              simp only [Frontier.follow, outcome]
              exact hypothesis (following.giveWay first others .nil
                Nat.zero_lt_one (Nat.zero_le _)
                (by rintro _ ⟨⟩) id
                (fun _ old => Or.inl old))
          | go next =>
              rw [outcome] at inverted stepAlive
              rcases inverted with ⟨nowNext, rfl, yields⟩
              simp only [Frontier.follow, outcome]
              exact hypothesis (following.giveWay first others
                (AllYield.single yields) (Nat.lt_succ_self _) (Nat.le_refl _)
                (fun other member => stepAlive other threadAlive member) id
                (fun _ old => Or.inl old))
          | pass state next =>
              rw [outcome] at inverted
              have labelled := label state threadAlive (by rw [outcome]; rfl)
              rcases inverted with
                ⟨rfl, character, rest, nowNext, ahead, rfl, nowLe, aheadLe,
                  yields⟩
              simp only [Frontier.follow, outcome]
              split
              · rename_i entered
                rcases following.drop labelled entered first others
                  Nat.zero_lt_one with ⟨dropped, same⟩
                rw [← same]
                exact hypothesis dropped
              · rw [← List.append_assoc]
                exact hypothesis (following.pass labelled first others yields
                  Nat.zero_lt_one nowLe aheadLe)
          | fork state preferred second =>
              rw [outcome] at inverted stepAlive
              have labelled := label state threadAlive (by rw [outcome]; rfl)
              rcases inverted with
                ⟨nowPreferred, nowSecond, laterPreferred, laterSecond,
                  runsPreferred, runsSecond, rfl, rfl, rfl, yields, yields'⟩
              have both := (AllYield.single yields).append
                (AllYield.single yields')
              simp only [Frontier.follow, outcome]
              split
              · rename_i entered
                rcases following.drop labelled entered first others
                  (Nat.succ_pos _) with ⟨dropped, same⟩
                rw [← same]
                exact hypothesis dropped
              · refine hypothesis (following.giveWay first others both
                  (Nat.lt_succ_self _) (Nat.le_refl _)
                  (fun other member => stepAlive other threadAlive member) id
                  ?_)
                intro other contained
                rw [States.contains_insert, Bool.or_eq_true,
                  decide_eq_true_eq] at contained
                rcases contained with old | rfl
                · exact Or.inl old
                · exact Or.inr (settled_of_yields labelled first both
                    (Nat.lt_succ_self _) (fun found => by simp [found]))

end Following

end Frontier

namespace Automaton

/-- The threads that are followed at a place. -/
def candidates (automaton : Automaton) (place : Place) (threads : List Thread)
    (best : Option Run) : List Thread :=
  if automaton.begins place best then
    threads ++ [Thread.start automaton.plan]
  else
    threads

theorem candidates_pass {automaton : Automaton}
    (anchored : automaton.anchored = true) (place : Place) (rest : Text)
    (threads : List Thread) (best : Option Run) :
    automaton.candidates (place.pass rest) threads best = threads := by
  simp [candidates, begins, anchored, Place.pass]

theorem update_eq (place : Place) (frontier : Frontier) (best : Option Run) :
    update place frontier best =
      (Frontier.finished place frontier).head?.or best := by
  unfold update Frontier.finished
  cases frontier.accepted <;> rfl

section Searching

variable {labels : Nat → List Task} {alive : Thread → Prop}
  {automaton : Automaton}

/-- The threads that pass a place are alive if those are that come to it. -/
theorem alive_arrive (labelling : Labelling labels alive) (place : Place)
    (threads : List Thread) (best : Option Run)
    (candidatesAlive : ∀ thread ∈ automaton.candidates place threads best,
      alive thread) :
    ∀ thread ∈ (automaton.arrive place threads best).passed, alive thread := by
  refine (Frontier.follow_preserves place alive alive (fun _ => True)
    ?_ ?_ ?_ automaton.effort (automaton.candidates place threads best) {}
    candidatesAlive ?_ ?_).1
  · intro thread _ _
    trivial
  · intro thread next threadAlive goesOn
    exact labelling.step place thread next threadAlive
      ((thread.step place).here_subset_threads goesOn)
  · intro thread state next threadAlive outcome
    exact labelling.step place thread next threadAlive
      (by simp [outcome, Step.threads])
  · intro thread impossible
    cases impossible
  · intro captures impossible
    cases impossible

/-- The threads at a place lead to the first run that backtracking finds. -/
theorem leads_arrive (labelling : Labelling labels alive) {place : Place}
    {text : Text} {threads : List Thread} {best : Option Run}
    {now later : Nat} {runs : List Run}
    (yield : AllYield place text (automaton.candidates place threads best)
      now later runs)
    (nowLe : now ≤ automaton.effort) (laterLe : later ≤ automaton.effort)
    (candidatesAlive : ∀ thread ∈ automaton.candidates place threads best,
      alive thread) :
    Frontier.Leads place text automaton.effort
      (automaton.arrive place threads best) runs.head? := by
  have following : Frontier.Following labels alive place text automaton.effort
      automaton.effort (automaton.candidates place threads best) {}
      now later runs 0 0 [] :=
    { here := yield
      ahead := .nil
      enough := nowLe
      nowLe := by omega
      laterLe := by omega
      threadsAlive := candidatesAlive
      settled := by simp
      undecided := rfl
      atEnd := fun _ => rfl }
  exact following.follow labelling

/--
An anchored search in step finds the first run that backtracking finds, if its
effort covers the steps taken at each place.
-/
theorem search_eq_head? (labelling : Labelling labels alive)
    (anchored : automaton.anchored = true) {text : Text} {place : Place}
    {threads : List Thread} {best : Option Run} {now later : Nat}
    {runs : List Run}
    (yield : AllYield place text (automaton.candidates place threads best)
      now later runs)
    (nowLe : now ≤ automaton.effort) (laterLe : later ≤ automaton.effort)
    (candidatesAlive : ∀ thread ∈ automaton.candidates place threads best,
      alive thread) :
    automaton.search text place threads best = runs.head?.or best := by
  induction text generalizing place threads best now later runs with
  | nil =>
      rcases leads_arrive labelling yield nowLe laterLe candidatesAlive with
        ⟨nowAhead, laterAhead, runsAhead, ahead, _, _, atEnd, target⟩
      rw [atEnd rfl] at ahead
      cases ahead
      rw [search, update_eq, ← target, List.nil_append]
  | cons character rest hypothesis =>
      have passedAlive :=
        alive_arrive labelling place threads best candidatesAlive
      rcases leads_arrive labelling yield nowLe laterLe candidatesAlive with
        ⟨nowAhead, laterAhead, runsAhead, ahead, nowAheadLe, laterAheadLe, _,
          target⟩
      rw [search, update_eq, ← target]
      split
      · rename_i stopped
        simp only [anchored, Bool.true_or, Bool.and_true, List.isEmpty_iff]
          at stopped
        rw [stopped] at ahead
        cases ahead
        rw [List.nil_append]
      · generalize newBest : (Frontier.finished place
          (automaton.arrive place threads best)).head?.or best = updated
        have alone := candidates_pass anchored place rest
          (automaton.arrive place threads best).passed.reverse updated
        have found := hypothesis (by rw [alone]; exact ahead) nowAheadLe
          laterAheadLe (by
            rw [alone]
            intro thread member
            exact passedAlive thread (List.mem_reverse.1 member))
        rw [found, ← newBest, List.head?_append, Option.or_assoc]

end Searching

end Automaton

end BayesLex
