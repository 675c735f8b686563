import BayesLex.Proofs.Regex.Captures
import BayesLex.Regex.Combinators
import Mathlib.Data.List.SplitBy

/-!
# Expressions without capture groups

Where no capture group stands in the parts of an expression, none stands in what
is built of them: sequences and alternatives rearrange their parts, but they
make no groups of their own.  The plan of such an expression captures nothing,
and so do the tasks with which a thread works through it
(`Thread.ungrouped_step`).
-/

namespace BayesLex

namespace Regex

/-- No capture group stands in an expression. -/
def Ungrouped : Regex → Prop
  | empty | one _ | assertion _ => True
  | group _ _ => False
  | seq left right | alt left right => left.Ungrouped ∧ right.Ungrouped
  | iterate body _ => body.Ungrouped

theorem ungrouped_iff_items (regex : Regex) :
    regex.Ungrouped ↔ ∀ item ∈ regex.items, item.Ungrouped := by
  induction regex with
  | seq left right leftHypothesis rightHypothesis =>
      rw [Ungrouped, items, List.forall_mem_append, leftHypothesis,
        rightHypothesis]
  | empty => exact ⟨fun _ => nofun, fun _ => trivial⟩
  | one | assertion | group | alt | iterate =>
      exact List.forall_mem_singleton.symm

theorem ungrouped_iff_branches (regex : Regex) :
    regex.Ungrouped ↔ ∀ branch ∈ regex.branches, branch.Ungrouped := by
  induction regex with
  | alt left right leftHypothesis rightHypothesis =>
      rw [Ungrouped, branches, List.forall_mem_append, leftHypothesis,
        rightHypothesis]
  | empty | one | assertion | group | seq | iterate =>
      exact List.forall_mem_singleton.symm

theorem ungrouped_chain {regexes : List Regex}
    (ungrouped : ∀ regex ∈ regexes, regex.Ungrouped) :
    (chain regexes).Ungrouped := by
  fun_induction chain regexes with
  | case1 => exact trivial
  | case2 regex => exact ungrouped regex List.mem_cons_self
  | case3 first second rest hypothesis =>
      rw [List.forall_mem_cons] at ungrouped
      exact ⟨ungrouped.1, hypothesis ungrouped.2⟩

theorem ungrouped_sequence {regexes : List Regex}
    (ungrouped : ∀ regex ∈ regexes, regex.Ungrouped) :
    (sequence regexes).Ungrouped := by
  apply ungrouped_chain
  intro item member
  rcases List.mem_flatMap.1 member with ⟨regex, among, itemOf⟩
  exact (ungrouped_iff_items regex).1 (ungrouped regex among) item itemOf

theorem ungrouped_foldl_alt {first : Regex} {rest : List Regex}
    (firstUngrouped : first.Ungrouped)
    (restUngrouped : ∀ regex ∈ rest, regex.Ungrouped) :
    (rest.foldl alt first).Ungrouped := by
  induction rest generalizing first with
  | nil => exact firstUngrouped
  | cons next rest hypothesis =>
      rw [List.forall_mem_cons] at restUngrouped
      exact hypothesis ⟨firstUngrouped, restUngrouped.1⟩ restUngrouped.2

theorem ungrouped_choice {regexes : List Regex}
    (ungrouped : ∀ regex ∈ regexes, regex.Ungrouped) :
    (choice regexes).Ungrouped := by
  cases regexes with
  | nil => exact trivial
  | cons first rest =>
      rw [List.forall_mem_cons] at ungrouped
      have alternatives := ungrouped_foldl_alt ungrouped.1 ungrouped.2
      simp only [choice]
      split
      · split
        · exact trivial
        · exact alternatives
      · exact alternatives

theorem ungrouped_of_mem_parts {regex : Regex} (ungrouped : regex.Ungrouped) :
    ∀ part ∈ regex.parts, ∀ item ∈ part, item.Ungrouped := by
  intro part among item member
  apply (ungrouped_iff_items regex).1 ungrouped
  have inAll : item ∈ regex.parts.flatten :=
    List.mem_flatten.2 ⟨part, among, member⟩
  rwa [parts, List.flatten_splitBy] at inAll

theorem mem_of_mem_shared {part : List Regex} {left right : List (List Regex)}
    (member : part ∈ shared left right) : part ∈ left := by
  induction left generalizing right with
  | nil => cases member
  | cons first rest hypothesis =>
      cases right with
      | nil => cases member
      | cons first' rest' =>
          rw [shared] at member
          split at member
          · rcases List.mem_cons.1 member with rfl | later
            · exact List.mem_cons_self
            · exact List.mem_cons_of_mem first (hypothesis later)
          · cases member

theorem mem_of_mem_foldl_shared {part : List Regex}
    {first : List (List Regex)} {rest : List (List (List Regex))}
    (member : part ∈ rest.foldl shared first) : part ∈ first := by
  induction rest generalizing first with
  | nil => exact member
  | cons next rest hypothesis => exact mem_of_mem_shared (hypothesis member)

/-- What some sequences share stands in one of them. -/
theorem exists_of_mem_sharedParts {part : List Regex}
    {sequences : List (List (List Regex))}
    (member : part ∈ sharedParts sequences) :
    ∃ pieces ∈ sequences, part ∈ pieces := by
  unfold sharedParts at member
  split at member
  · split at member
    · cases member
    · rename_i first rest _
      exact ⟨first, List.mem_cons_self, mem_of_mem_foldl_shared member⟩
  · cases member

theorem ungrouped_alternatives {regexes : List Regex}
    (ungrouped : ∀ regex ∈ regexes, regex.Ungrouped) :
    (alternatives regexes).Ungrouped := by
  have inBranches : ∀ branch ∈ regexes.flatMap branches, branch.Ungrouped := by
    intro branch member
    rcases List.mem_flatMap.1 member with ⟨regex, among, branchOf⟩
    exact (ungrouped_iff_branches regex).1 (ungrouped regex among) branch
      branchOf
  have inParts : ∀ pieces ∈ (regexes.flatMap branches).map parts,
      ∀ part ∈ pieces, ∀ item ∈ part, item.Ungrouped := by
    intro _ member
    rcases List.mem_map.1 member with ⟨branch, among, rfl⟩
    exact ungrouped_of_mem_parts (inBranches branch among)
  simp only [alternatives]
  split
  · exact ungrouped_choice inBranches
  · rename_i start _
    apply ungrouped_sequence
    rw [List.forall_mem_append, List.forall_mem_singleton]
    constructor
    · intro item member
      rcases List.mem_flatten.1 member with ⟨part, among, itemOf⟩
      rcases exists_of_mem_sharedParts among with ⟨pieces, inSequences, partOf⟩
      exact inParts pieces inSequences part partOf item itemOf
    · apply ungrouped_choice
      intro branch member
      rcases List.mem_flatMap.1 member with ⟨ending, among, branchOf⟩
      rcases List.mem_map.1 among with ⟨pieces, inSequences, rfl⟩
      refine (ungrouped_iff_branches _).1 (ungrouped_sequence ?_) branch
        branchOf
      intro item inRest
      rcases List.mem_flatten.1 inRest with ⟨part, partOf, itemOf⟩
      exact inParts pieces inSequences part (List.mem_of_mem_drop partOf) item
        itemOf

theorem ungrouped_repeated {body : Regex} (ungrouped : body.Ungrouped)
    (repetition : Repetition) : (body.repeated repetition).Ungrouped := by
  unfold repeated
  extract_lets least most
  split
  · exact trivial
  · split
    · exact ungrouped
    · exact ungrouped

theorem Ungrouped.groupCount {regex : Regex} (ungrouped : regex.Ungrouped) :
    regex.groupCount = 0 := by
  induction regex with
  | empty | one | assertion => rfl
  | group => exact ungrouped.elim
  | seq left right leftHypothesis rightHypothesis
  | alt left right leftHypothesis rightHypothesis =>
      rw [Regex.groupCount, leftHypothesis ungrouped.1,
        rightHypothesis ungrouped.2]
      rfl
  | iterate body repetition hypothesis => exact hypothesis ungrouped

end Regex

/-- A plan that captures nothing. -/
def Plan.Ungrouped : Plan → Prop
  | skip | read _ | check _ => True
  | capture _ _ => False
  | seq left _ right | choose left _ right =>
      left.Ungrouped ∧ right.Ungrouped
  | times _ _ body | upTo _ _ _ body | star _ body | loop _ body =>
      body.Ungrouped

theorem Plan.ungrouped_iterate {body : Plan} (ungrouped : body.Ungrouped)
    (nullable : Bool) (repetition : Repetition) :
    (body.iterate nullable repetition).Ungrouped := by
  unfold iterate
  split
  · unfold anyNumber
    split <;> exact ungrouped
  · exact ungrouped
  · exact ⟨ungrouped, ungrouped⟩
  · exact ungrouped
  · split
    · exact ungrouped
    · exact ⟨ungrouped, ungrouped⟩

theorem Regex.Ungrouped.plan {regex : Regex} (ungrouped : regex.Ungrouped) :
    regex.plan.Ungrouped := by
  induction regex with
  | empty | one | assertion => exact trivial
  | group => exact ungrouped.elim
  | seq left right leftHypothesis rightHypothesis
  | alt left right leftHypothesis rightHypothesis =>
      exact ⟨leftHypothesis ungrouped.1, rightHypothesis ungrouped.2⟩
  | iterate body repetition hypothesis =>
      exact Plan.ungrouped_iterate (hypothesis ungrouped) _ repetition

/-- A task in which no capture group begins or ends. -/
def Task.Ungrouped : Task → Prop
  | enter _ plan => plan.Ungrouped
  | again _ _ body => body.Ungrouped
  | close _ _ => False

namespace Thread

/-- Tasks that capture nothing have been put in the place of the first one. -/
def Replaces (next thread : Thread) (tasks : List Task) : Prop :=
  next.captures = thread.captures ∧
    ∃ more, next.tasks = more ++ tasks ∧ ∀ task ∈ more, task.Ungrouped

theorem replaces_doing (thread : Thread) (more tasks : List Task)
    (ungrouped : ∀ task ∈ more, task.Ungrouped) :
    (thread.doing (more ++ tasks)).Replaces thread tasks :=
  ⟨rfl, more, rfl, ungrouped⟩

theorem ungrouped_pair {first second : Task} (firstUngrouped : first.Ungrouped)
    (secondUngrouped : second.Ungrouped) :
    ∀ task ∈ [first, second], task.Ungrouped :=
  List.forall_mem_cons.2
    ⟨firstUngrouped, List.forall_mem_singleton.2 secondUngrouped⟩

theorem ungrouped_offer {thread next : Thread} {state : Nat} {greedy : Bool}
    {more tasks : List Task} (ungrouped : ∀ task ∈ more, task.Ungrouped)
    (goesOn : next ∈ (thread.offer state greedy more tasks).threads) :
    next.Replaces thread tasks := by
  have stay := thread.replaces_doing more tasks ungrouped
  have leave := thread.replaces_doing [] tasks nofun
  cases greedy <;> rcases List.mem_cons.1 goesOn with rfl | goesOn
  · exact leave
  · rw [List.mem_singleton.1 goesOn]
    exact stay
  · exact stay
  · rw [List.mem_singleton.1 goesOn]
    exact leave

theorem ungrouped_enter {place : Place} {thread next : Thread} {base : Nat}
    {tasks : List Task} {plan : Plan} (ungrouped : plan.Ungrouped)
    (goesOn : next ∈ (thread.enter place base tasks plan).threads) :
    next.Replaces thread tasks := by
  have drops := thread.replaces_doing [] tasks nofun
  cases plan with
  | skip =>
      rw [List.mem_singleton.1 goesOn]
      exact drops
  | read | check =>
      simp only [enter] at goesOn
      split at goesOn
      · rw [List.mem_singleton.1 goesOn]
        exact drops
      · cases goesOn
  | capture => exact ungrouped.elim
  | seq left offset right =>
      rw [List.mem_singleton.1 goesOn]
      exact thread.replaces_doing
        [.enter base left, .enter (base + offset) right] tasks
        (ungrouped_pair ungrouped.1 ungrouped.2)
  | choose first offset second =>
      rcases List.mem_cons.1 goesOn with rfl | goesOn
      · exact thread.replaces_doing [.enter (base + 1) first] tasks
          (List.forall_mem_singleton.2 ungrouped.1)
      · rw [List.mem_singleton.1 goesOn]
        exact thread.replaces_doing [.enter (base + offset) second] tasks
          (List.forall_mem_singleton.2 ungrouped.2)
  | times count width body =>
      cases count with
      | zero =>
          rw [List.mem_singleton.1 goesOn]
          exact drops
      | succ count =>
          rw [List.mem_singleton.1 goesOn]
          exact thread.replaces_doing
            [.enter base body, .enter (base + width) (.times count width body)]
            tasks (ungrouped_pair ungrouped ungrouped)
  | upTo count width greedy body =>
      cases count with
      | zero =>
          rw [List.mem_singleton.1 goesOn]
          exact drops
      | succ count =>
          have pass : ∀ task ∈ [.enter (base + 1) body,
              .enter (base + width + 1) (.upTo count width greedy body)],
              Task.Ungrouped task :=
            ungrouped_pair ungrouped ungrouped
          exact ungrouped_offer pass goesOn
  | star greedy body =>
      have pass : ∀ task ∈ [.enter (base + 1) body,
          .enter base (.star greedy body)], Task.Ungrouped task :=
        ungrouped_pair ungrouped ungrouped
      exact ungrouped_offer pass goesOn
  | loop greedy body =>
      rw [List.mem_singleton.1 goesOn]
      exact thread.replaces_doing
        [.enter (base + 1) body, .again base greedy body] tasks
        (ungrouped_pair ungrouped ungrouped)

/-- A task that captures nothing leaves only such tasks before the others. -/
theorem ungrouped_step {place : Place} {thread next : Thread} {task : Task}
    {tasks : List Task} (first : thread.tasks = task :: tasks)
    (ungrouped : task.Ungrouped)
    (goesOn : next ∈ (thread.step place).threads) :
    next.Replaces thread tasks := by
  rcases thread with ⟨_, captures⟩
  cases first
  cases task with
  | enter base plan => exact ungrouped_enter ungrouped goesOn
  | again base greedy body =>
      have pass : ∀ task ∈ [.enter (base + 1) body, .again base greedy body],
          Task.Ungrouped task :=
        ungrouped_pair ungrouped ungrouped
      exact ungrouped_offer pass goesOn
  | close => exact ungrouped.elim

end Thread

end BayesLex
