import BayesLex.Proofs.Regex.Consecutive
import BayesLex.Proofs.Regex.Matching

/-!
# Every match found is a match

What a search of a text finds ends where some match of the expression ends
(`Regex.exists_matches_of_find?`).  A search does not tell where its match
begins, so the statement says that there is such a place.

The invariant of a thread is that it began at some place, from where the plan
matches up to any place to which the tasks that are left lead.
-/

namespace BayesLex

/-- A task leads from one place of a text to another. -/
def Task.Leads (text : Text) : Task → Nat → Nat → Prop
  | enter _ plan, start, stop => plan.Matches text start stop
  | again _ _ body, start, stop =>
      ∃ count, Passes (body.Matches text) count start stop
  | close _ _, start, stop => start = stop

/-- Tasks lead from one place of a text to another, one behind the other. -/
def Task.AllLead (text : Text) : List Task → Nat → Nat → Prop
  | [], start, stop => start = stop
  | task :: tasks, start, stop =>
      ∃ middle, task.Leads text start middle ∧
        AllLead text tasks middle stop

namespace Thread

variable {text : Text} {index stop : Nat} {thread next : Thread}

theorem tasks_of_offer {state : Nat} {greedy : Bool} {more tasks : List Task}
    (goesOn : next ∈ (thread.offer state greedy more tasks).here) :
    next.tasks = more ++ tasks ∨ next.tasks = tasks := by
  cases greedy with
  | false =>
      rcases List.mem_pair.1 goesOn with rfl | rfl
      · exact Or.inr rfl
      · exact Or.inl rfl
  | true =>
      rcases List.mem_pair.1 goesOn with rfl | rfl
      · exact Or.inl rfl
      · exact Or.inr rfl

/-- Any number of passes, of which the first is offered. -/
theorem passes_of_offer {state : Nat} {greedy : Bool} {first again : Task}
    {tasks : List Task} {pass : Nat → Nat → Prop}
    (firstLeads : ∀ {start stop}, first.Leads text start stop →
      pass start stop)
    (againLeads : ∀ {start stop}, again.Leads text start stop →
      ∃ count, Passes pass count start stop)
    (goesOn : next ∈ (thread.offer state greedy [first, again] tasks).here)
    (leads : Task.AllLead text next.tasks index stop) :
    ∃ middle, (∃ count, Passes pass count index middle) ∧
      Task.AllLead text tasks middle stop := by
  rcases tasks_of_offer goesOn with more | done
  · rw [more] at leads
    rcases leads with ⟨behind, begins, middle, others, rest⟩
    rcases againLeads others with ⟨count, passed⟩
    exact ⟨middle, ⟨count + 1, behind, firstLeads begins, passed⟩, rest⟩
  · rw [done] at leads
    exact ⟨index, ⟨0, rfl⟩, leads⟩

/-- Where a step within a plan leads, the plan and the other tasks lead. -/
theorem leads_enter {base : Nat} {tasks : List Task} {plan : Plan}
    (goesOn : next ∈
      (thread.enter (Place.of text index) base tasks plan).here)
    (leads : Task.AllLead text next.tasks index stop) :
    ∃ middle, plan.Matches text index middle ∧
      Task.AllLead text tasks middle stop := by
  cases plan with
  | skip =>
      cases List.mem_singleton.1 goesOn
      exact ⟨index, rfl, leads⟩
  | read set =>
      simp only [enter] at goesOn
      split at goesOn <;> cases goesOn
  | check condition =>
      simp only [enter] at goesOn
      split at goesOn
      · rename_i holds
        cases List.mem_singleton.1 goesOn
        exact ⟨index, ⟨rfl, holds⟩, leads⟩
      · cases goesOn
  | capture group body =>
      cases List.mem_singleton.1 goesOn
      rcases leads with ⟨middle, found, _, rfl, rest⟩
      exact ⟨middle, found, rest⟩
  | seq left offset right =>
      cases List.mem_singleton.1 goesOn
      rcases leads with ⟨between, first, middle, second, rest⟩
      exact ⟨middle, ⟨between, first, second⟩, rest⟩
  | choose first offset second =>
      rcases List.mem_pair.1 goesOn with rfl | rfl
      · rcases leads with ⟨middle, found, rest⟩
        exact ⟨middle, Or.inl found, rest⟩
      · rcases leads with ⟨middle, found, rest⟩
        exact ⟨middle, Or.inr found, rest⟩
  | times count width body =>
      cases count with
      | zero =>
          cases List.mem_singleton.1 goesOn
          exact ⟨index, rfl, leads⟩
      | succ count =>
          cases List.mem_singleton.1 goesOn
          rcases leads with ⟨between, first, middle, others, rest⟩
          exact ⟨middle, ⟨between, first, others⟩, rest⟩
  | upTo most width greedy body =>
      cases most with
      | zero =>
          cases List.mem_singleton.1 goesOn
          exact ⟨index, ⟨0, Nat.le_refl 0, rfl⟩, leads⟩
      | succ most =>
          rcases tasks_of_offer goesOn with more | done
          · rw [more] at leads
            rcases leads with
              ⟨between, first, middle, ⟨count, limit, others⟩, rest⟩
            exact ⟨middle,
              ⟨count + 1, Nat.succ_le_succ limit, between, first, others⟩, rest⟩
          · rw [done] at leads
            exact ⟨index, ⟨0, Nat.zero_le _, rfl⟩, leads⟩
  | star greedy body => exact passes_of_offer id id goesOn leads
  | loop greedy body =>
      cases List.mem_singleton.1 goesOn
      rcases leads with ⟨between, first, middle, ⟨count, others⟩, rest⟩
      exact ⟨middle, ⟨count, between, first, others⟩, rest⟩

/-- Where the tasks behind a step lead, the tasks before it lead. -/
theorem allLead_of_here
    (goesOn : next ∈ (thread.step (Place.of text index)).here)
    (leads : Task.AllLead text next.tasks index stop) :
    Task.AllLead text thread.tasks index stop := by
  rcases thread with ⟨_ | ⟨task, tasks⟩, captures⟩
  · cases goesOn
  · cases task with
    | enter base plan => exact leads_enter goesOn leads
    | again base greedy body => exact passes_of_offer id id goesOn leads
    | close group start =>
        cases List.mem_singleton.1 goesOn
        exact ⟨index, rfl, leads⟩

theorem offer_ne_pass {state passed : Nat} (greedy : Bool)
    (more tasks : List Task) :
    thread.offer state greedy more tasks ≠ .pass passed next := by
  intro outcome
  cases greedy <;> cases outcome

/-- Within a plan only a set passes a character, which is one of its members. -/
theorem set_of_enter {place : Place} {base state : Nat} {tasks : List Task}
    {plan : Plan}
    (outcome : thread.enter place base tasks plan = .pass state next) :
    ∃ set, plan = .read set ∧ next.tasks = tasks ∧
      place.after.any set.contains = true := by
  cases plan with
  | skip | capture | seq | choose | loop => cases outcome
  | read set =>
      simp only [enter] at outcome
      split at outcome
      · rename_i member
        cases outcome
        exact ⟨set, rfl, rfl, member⟩
      · cases outcome
  | check condition =>
      simp only [enter] at outcome
      split at outcome <;> cases outcome
  | times count => cases count <;> cases outcome
  | upTo most =>
      cases most with
      | zero => cases outcome
      | succ most => exact absurd outcome (offer_ne_pass _ _ _)
  | star => exact absurd outcome (offer_ne_pass _ _ _)

/-- Where the tasks behind a character lead, the tasks before it lead. -/
theorem allLead_of_pass {state : Nat}
    (outcome : thread.step (Place.of text index) = .pass state next)
    (leads : Task.AllLead text next.tasks (index + 1) stop) :
    Task.AllLead text thread.tasks index stop := by
  rcases thread with ⟨_ | ⟨task, tasks⟩, captures⟩
  · cases outcome
  · cases task with
    | enter base plan =>
        rcases set_of_enter outcome with ⟨set, rfl, rfl, member⟩
        exact ⟨index + 1, ⟨rfl, member⟩, leads⟩
    | again => exact absurd outcome (offer_ne_pass _ _ _)
    | close => cases outcome

end Thread

namespace Automaton

variable {text : Text}

/--
A thread at a place: from some place on, the plan matches up to wherever the
tasks that are left lead.
-/
def Pursues (plan : Plan) (text : Text) (index : Nat) (thread : Thread) :
    Prop :=
  ∃ first, ∀ stop, Task.AllLead text thread.tasks index stop →
    plan.Matches text first stop

theorem invariant_pursues (automaton : Automaton) (text : Text) :
    automaton.InvariantIn text (Pursues automaton.plan text)
      (fun index _ => ∃ first, automaton.plan.Matches text first index) where
  start := by
    intro index best _
    refine ⟨index, ?_⟩
    rintro stop ⟨_, found, rfl⟩
    exact found
  stay := by
    rintro index thread next ⟨first, pursues⟩ goesOn
    exact ⟨first, fun stop leads =>
      pursues stop (Thread.allLead_of_here goesOn leads)⟩
  pass := by
    rintro index thread state next ⟨first, pursues⟩ outcome
    exact ⟨first, fun stop leads =>
      pursues stop (Thread.allLead_of_pass outcome leads)⟩
  accept := by
    rintro index thread ⟨first, pursues⟩ outcome
    refine ⟨first, pursues index ?_⟩
    rw [Thread.tasks_eq_nil_of_step outcome]
    rfl

end Automaton

/-- Where a run ends that has been found, a match of the expression ends. -/
theorem Regex.exists_matches_of_find? {regex : Regex} {text : Text} {run : Run}
    (found : regex.automaton.find? text = some run) :
    ∃ first, regex.Matches text first run.taken := by
  rcases ((regex.automaton.invariant_pursues text).find? found).2 with
    ⟨first, planMatches⟩
  exact ⟨first, (regex.matches_plan_iff).1 planMatches⟩

end BayesLex
