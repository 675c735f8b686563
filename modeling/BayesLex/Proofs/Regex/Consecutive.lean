import BayesLex.Proofs.Regex.Anchored
import BayesLex.Proofs.Regex.Ungrouped

/-!
# Groups one behind the other

Where an expression is nothing but capture groups one behind the other, and no
group stands in another one, the groups of a match follow each other without a
gap: the first one begins where the text does, each of the others begins where
the one before it ends, and the last one ends with the match.

This is an invariant of the search, since every thread keeps it.  A thread is
between two groups, and its captures reach up to its place, or it is inside of
a group, and they reach up to the beginning of that group.  That a group gives
back characters needs no case of its own: the thread that goes on then has
branched off before it passed them.
-/

namespace BayesLex

/-- Spans without a gap between them, from one place to another. -/
def Capture.Abut (stop : Nat) : Nat → List Capture → Prop
  | place, [] => place = stop
  | place, span :: spans =>
      span.start = place ∧ place ≤ span.stop ∧ Abut stop span.stop spans

theorem Capture.Abut.concat {place : Nat} {spans : List Capture}
    {last : Capture} (abut : Abut last.start place spans)
    (ordered : last.start ≤ last.stop) :
    Abut last.stop place (spans ++ [last]) := by
  induction spans generalizing place with
  | nil =>
      cases abut
      exact ⟨rfl, ordered, rfl⟩
  | cons span spans hypothesis =>
      exact ⟨abut.1, abut.2.1, hypothesis abut.2.2⟩

namespace Captures

/-- The groups with the numbers from one on have captured these spans. -/
def Lists (captures : Captures) (spans : List Capture) : Prop :=
  ∀ index, captures.lookup (index + 1) = spans[index]?

theorem Lists.add {captures : Captures} {spans : List Capture}
    (lists : captures.Lists spans) (span : Capture) :
    Lists ((spans.length + 1, span) :: captures) (spans ++ [span]) := by
  intro index
  rw [List.lookup_cons, lists index, List.getElem?_append]
  rcases Nat.lt_trichotomy index spans.length with before | rfl | behind
  · have other : (index + 1 == spans.length + 1) = false := by
      simp only [beq_eq_false_iff_ne]
      omega
    rw [other, if_pos before]
  · simp
  · have other : (index + 1 == spans.length + 1) = false := by
      simp only [beq_eq_false_iff_ne]
      omega
    rw [other, if_neg (Nat.lt_asymm behind), List.getElem?_singleton,
      if_neg (Nat.sub_ne_zero_of_lt behind),
      List.getElem?_eq_none (Nat.le_of_lt behind)]

/-- So many groups have captured all of the text up to a place. -/
def Reach (captures : Captures) (count place : Nat) : Prop :=
  ∃ spans, spans.length = count ∧ Capture.Abut place 0 spans ∧
    captures.Lists spans

theorem reach_nil : Reach [] 0 0 :=
  ⟨[], rfl, rfl, fun _ => rfl⟩

theorem Reach.add {captures : Captures} {count : Nat} {span : Capture}
    (reach : captures.Reach count span.start)
    (ordered : span.start ≤ span.stop) :
    Reach ((count + 1, span) :: captures) (count + 1) span.stop := by
  rcases reach with ⟨spans, rfl, abut, lists⟩
  exact ⟨spans ++ [span], List.length_append, abut.concat ordered,
    lists.add span⟩

end Captures

/--
A plan that captures group after group, and passes nothing but in them: so many
groups have been captured before it, and so many behind it.
-/
inductive Plan.Collects : Nat → Plan → Nat → Prop
  | skip (count : Nat) : Collects count .skip count
  | capture (count : Nat) {body : Plan} : body.Ungrouped →
      Collects count (.capture (count + 1) body) (count + 1)
  | check (count : Nat) (condition : Assertion) :
      Collects count (.check condition) count
  | seq {first middle last : Nat} {left right : Plan} (offset : Nat) :
      Collects first left middle → Collects middle right last →
      Collects first (.seq left offset right) last

/-- Tasks that do so one behind the other. -/
inductive Task.Collects : Nat → List Task → Nat → Prop
  | done (count : Nat) : Collects count [] count
  | enter {first middle last : Nat} {plan : Plan} {tasks : List Task}
      (base : Nat) :
      plan.Collects first middle → Collects middle tasks last →
      Collects first (.enter base plan :: tasks) last

namespace Thread

/--
A thread that has captured group after group up to a place, or up to the
beginning of the group inside of which it is there.
-/
inductive Collects (last place : Nat) : Thread → Prop
  | between {count : Nat} {tasks : List Task} {captures : Captures} :
      captures.Reach count place → Task.Collects count tasks last →
      Collects last place { tasks, captures }
  | inside {count start : Nat} {tasks : List Task} {captures : Captures}
      (inner : List Task) :
      captures.Reach count start → start ≤ place →
      (∀ task ∈ inner, task.Ungrouped) → Task.Collects (count + 1) tasks last →
      Collects last place
        { tasks := inner ++ .close (count + 1) start :: tasks, captures }

theorem collects_enter {last : Nat} {place : Place} {thread next : Thread}
    {count middle base : Nat} {plan : Plan} {tasks : List Task}
    (reach : thread.captures.Reach count place.taken)
    (collects : plan.Collects count middle)
    (others : Task.Collects middle tasks last)
    (goesOn : next ∈ (thread.enter place base tasks plan).threads) :
    next.Collects last place.taken := by
  cases collects with
  | skip =>
      rw [List.mem_singleton.1 goesOn]
      exact .between reach others
  | @capture _ body ungrouped =>
      rw [List.mem_singleton.1 goesOn]
      exact .inside [.enter base body] reach (Nat.le_refl place.taken)
        (List.forall_mem_singleton.2 ungrouped) others
  | check =>
      simp only [enter] at goesOn
      split at goesOn
      · rw [List.mem_singleton.1 goesOn]
        exact .between reach others
      · cases goesOn
  | seq offset left right =>
      rw [List.mem_singleton.1 goesOn]
      exact .between reach (.enter base left (.enter _ right others))

/--
Inside of a group a thread captures nothing, so that it is still inside of it
at its place, and also behind the next character.
-/
theorem collects_inside {last : Nat} {place : Place} {next : Thread}
    {count start : Nat} {task : Task} {inner tasks : List Task}
    {captures : Captures} (reach : captures.Reach count start)
    (ungrouped : ∀ task' ∈ task :: inner, task'.Ungrouped)
    (others : Task.Collects (count + 1) tasks last)
    (goesOn : next ∈ (step place
      { tasks := task :: (inner ++ .close (count + 1) start :: tasks)
        captures }).threads)
    {taken : Nat} (behind : start ≤ taken) :
    next.Collects last taken := by
  rw [List.forall_mem_cons] at ungrouped
  rcases ungrouped_step rfl ungrouped.1 goesOn with
    ⟨sameCaptures, more, replaced, moreUngrouped⟩
  rw [← List.append_assoc] at replaced
  rcases next with ⟨nextTasks, nextCaptures⟩
  obtain rfl : nextCaptures = captures := sameCaptures
  obtain rfl : nextTasks = _ := replaced
  exact .inside (more ++ inner) reach behind
    (List.forall_mem_append.2 ⟨moreUngrouped, ungrouped.2⟩) others

theorem collects_step {last : Nat} {place : Place} {thread next : Thread}
    (collects : thread.Collects last place.taken)
    (goesOn : next ∈ (thread.step place).threads) :
    next.Collects last place.taken := by
  cases collects with
  | between reach tasksCollect =>
      cases tasksCollect with
      | done => cases goesOn
      | enter base first others =>
          exact collects_enter reach first others goesOn
  | inside inner reach begun ungrouped others =>
      cases inner with
      | nil =>
          -- Nothing is left of the group, so its end is what comes next.
          rw [List.mem_singleton.1 goesOn]
          exact .between (reach.add begun) others
      | cons task inner =>
          exact collects_inside reach ungrouped others goesOn begun

/-- A thread that passes the next character is inside of a group. -/
theorem collects_pass {last : Nat} {place : Place} {thread next : Thread}
    {state : Nat} (collects : thread.Collects last place.taken)
    (outcome : thread.step place = .pass state next) :
    next.Collects last (place.taken + 1) := by
  cases collects with
  | between reach tasksCollect =>
      cases tasksCollect with
      | done => cases outcome
      | enter base first others =>
          cases first with
          | skip | capture | seq => cases outcome
          | check =>
              simp only [step, enter] at outcome
              split at outcome <;> cases outcome
  | inside inner reach begun ungrouped others =>
      cases inner with
      | nil => cases outcome
      | cons task inner =>
          have goesOn : next ∈ (Step.pass state next).threads :=
            List.mem_singleton_self next
          rw [← outcome] at goesOn
          exact collects_inside reach ungrouped others goesOn
            (Nat.le_succ_of_le begun)

theorem offer_ne_accept (thread : Thread) (state : Nat) (greedy : Bool)
    (more tasks : List Task) :
    thread.offer state greedy more tasks ≠ .accept := by
  intro outcome
  cases greedy <;> cases outcome

theorem enter_ne_accept (place : Place) (thread : Thread) (base : Nat)
    (tasks : List Task) (plan : Plan) :
    thread.enter place base tasks plan ≠ .accept := by
  intro outcome
  cases plan with
  | skip | capture | seq | choose | loop => cases outcome
  | read | check =>
      simp only [enter] at outcome
      split at outcome <;> cases outcome
  | times count => cases count <;> cases outcome
  | upTo count =>
      cases count with
      | zero => cases outcome
      | succ count => exact offer_ne_accept _ _ _ _ _ outcome
  | star => exact offer_ne_accept _ _ _ _ _ outcome

theorem tasks_eq_nil_of_step {place : Place} {thread : Thread}
    (outcome : thread.step place = .accept) : thread.tasks = [] := by
  rcases thread with ⟨_ | ⟨task, tasks⟩, captures⟩
  · rfl
  · cases task with
    | enter => exact absurd outcome (enter_ne_accept _ _ _ _ _)
    | again => exact absurd outcome (offer_ne_accept _ _ _ _ _)
    | close => cases outcome

/-- A thread that has done its tasks has captured all groups up to its place. -/
theorem reach_accept {last : Nat} {place : Place} {thread : Thread}
    (collects : thread.Collects last place.taken)
    (outcome : thread.step place = .accept) :
    thread.captures.Reach last place.taken := by
  have finished := tasks_eq_nil_of_step outcome
  cases collects with
  | between reach tasksCollect =>
      cases finished
      cases tasksCollect
      exact reach
  | inside inner => simp at finished

end Thread

namespace Regex

/-- Capture groups for some expressions, numbered in their order. -/
def groupsFrom (index : Nat) : List Regex → List Regex
  | [] => []
  | body :: bodies => group index body :: groupsFrom (index + 1) bodies

theorem collects_groups {bodies : List Regex}
    (ungrouped : ∀ body ∈ bodies, body.Ungrouped) (count : Nat) :
    (chain (groupsFrom (count + 1) bodies)).plan.Collects count
      (count + bodies.length) := by
  induction bodies generalizing count with
  | nil => exact .skip count
  | cons first bodies hypothesis =>
      rw [List.forall_mem_cons] at ungrouped
      have captures := Plan.Collects.capture count ungrouped.1.plan
      cases bodies with
      | nil => exact captures
      | cons second bodies =>
          have others := hypothesis ungrouped.2 (count + 1)
          rw [Nat.add_right_comm count 1 (second :: bodies).length] at others
          exact .seq _ captures others

theorem groupCount_groups {bodies : List Regex}
    (ungrouped : ∀ body ∈ bodies, body.Ungrouped) (nonempty : bodies ≠ [])
    (count : Nat) :
    (chain (groupsFrom (count + 1) bodies)).groupCount =
      count + bodies.length := by
  induction bodies generalizing count with
  | nil => exact absurd rfl nonempty
  | cons first bodies hypothesis =>
      rw [List.forall_mem_cons] at ungrouped
      have firstCount : (group (count + 1) first).groupCount = count + 1 := by
        rw [groupCount, ungrouped.1.groupCount]
        exact Nat.max_zero _
      cases bodies with
      | nil => exact firstCount
      | cons second bodies =>
          have others := hypothesis ungrouped.2
            (List.cons_ne_nil second bodies) (count + 1)
          have both : (chain (groupsFrom (count + 1)
              (first :: second :: bodies))).groupCount =
              max (group (count + 1) first).groupCount
                (chain (groupsFrom (count + 2)
                  (second :: bodies))).groupCount := rfl
          rw [both, firstCount, others]
          simp only [List.length_cons]
          omega

/-- A search for groups behind the start of the text keeps `Thread.Collects`. -/
theorem invariant_collects {body : Regex} {last : Nat}
    (collects : body.plan.Collects 0 last) :
    body.anchored.automaton.Invariant
      (fun taken thread => thread.Collects last taken)
      (fun taken captures => captures.Reach last taken) where
  start place best begins := by
    have atStart : place.taken = 0 := by
      have anchored : body.anchored.automaton.anchored = true := by
        simp [automaton, anchored, leads]
      simp only [Automaton.begins, anchored, Bool.not_true, Bool.false_or,
        Bool.and_eq_true, beq_iff_eq] at begins
      exact begins.2
    rw [atStart]
    exact .between Captures.reach_nil
      (.enter 0 (.seq _ (.check 0 .textStart) collects) (.done last))
  step _ _ _ := Thread.collects_step
  pass _ _ _ _ := Thread.collects_pass
  accept _ _ := Thread.reach_accept

/--
The groups of an expression that is nothing but groups one behind the other
cover its match one behind the other.
-/
theorem group?_groups {bodies : List Regex}
    (ungrouped : ∀ body ∈ bodies, body.Ungrouped) {text : Text} {run : Run}
    (found : (chain (groupsFrom 1 bodies)).anchored.automaton.find? text =
      some run) :
    ∃ spans, spans.length = bodies.length ∧
      Capture.Abut run.taken 0 spans ∧
      ∀ index, run.group? (index + 1) = spans[index]? := by
  have collects := collects_groups ungrouped 0
  have reach := ((invariant_collects collects).find? found).2
  rwa [Nat.zero_add] at reach

end Regex

end BayesLex
