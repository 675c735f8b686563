import BayesLex.Proofs.Regex.Search

/-!
# A state determines the tasks that are left

The states of a plan are numbered from its base, part after part.  This module
shows that the numbers keep the states apart: for the plan of any expression
there is a table that gives for each state the tasks with which a thread enters
it (`Regex.exists_labelling`).

The table is put together along the plan.  What it says about a part depends
only on the numbers of that part, so the tables of two parts can be spliced
where the numbers of the first one end.
-/

namespace BayesLex

namespace Plan

/-- The offsets and widths noted in a plan are those of its parts. -/
def Numbered : Plan → Prop
  | skip | read _ | check _ => True
  | capture _ body | star _ body | loop _ body => body.Numbered
  | seq left offset right =>
      offset = left.width ∧ left.Numbered ∧ right.Numbered
  | choose first offset second =>
      offset = first.width + 1 ∧ first.Numbered ∧ second.Numbered
  | times _ width body | upTo _ width _ body =>
      width = body.width ∧ body.Numbered

theorem numbered_iterate {body : Plan} (numbered : body.Numbered)
    (nullable : Bool) (repetition : Repetition) :
    (body.iterate nullable repetition).Numbered := by
  unfold iterate
  split
  · unfold anyNumber
    split
    · exact ⟨rfl, numbered⟩
    · exact numbered
  · exact numbered
  · exact ⟨rfl, ⟨rfl, numbered⟩, numbered⟩
  · exact ⟨rfl, numbered⟩
  · split
    · exact ⟨rfl, numbered⟩
    · exact ⟨rfl, ⟨rfl, numbered⟩, rfl, numbered⟩

/--
A table gives the tasks with which threads enter the states of a plan that
begins at a base and has `tasks` behind it.
-/
inductive Labels (labels : Nat → List Task) : Plan → Nat → List Task → Prop where
  | skip (base : Nat) (tasks : List Task) : Labels labels .skip base tasks
  | read {set : CharSet} {base : Nat} {tasks : List Task}
      (label : labels base = .enter base (.read set) :: tasks) :
      Labels labels (.read set) base tasks
  | check (condition : Assertion) (base : Nat) (tasks : List Task) :
      Labels labels (.check condition) base tasks
  | capture {index : Nat} {body : Plan} {base : Nat} {tasks : List Task}
      (inner : Labels labels body base (.close index 0 :: tasks)) :
      Labels labels (.capture index body) base tasks
  | seq {left right : Plan} {offset base : Nat} {tasks : List Task}
      (first : Labels labels left base
        (.enter (base + offset) right :: tasks))
      (second : Labels labels right (base + offset) tasks) :
      Labels labels (.seq left offset right) base tasks
  | choose {left right : Plan} {offset base : Nat} {tasks : List Task}
      (label : labels base = .enter base (.choose left offset right) :: tasks)
      (first : Labels labels left (base + 1) tasks)
      (second : Labels labels right (base + offset) tasks) :
      Labels labels (.choose left offset right) base tasks
  | timesZero (width : Nat) (body : Plan) (base : Nat) (tasks : List Task) :
      Labels labels (.times 0 width body) base tasks
  | timesSucc {count width : Nat} {body : Plan} {base : Nat}
      {tasks : List Task}
      (first : Labels labels body base
        (.enter (base + width) (.times count width body) :: tasks))
      (others : Labels labels (.times count width body) (base + width) tasks) :
      Labels labels (.times (count + 1) width body) base tasks
  | upToZero (width : Nat) (greedy : Bool) (body : Plan) (base : Nat)
      (tasks : List Task) :
      Labels labels (.upTo 0 width greedy body) base tasks
  | upToSucc {count width : Nat} {greedy : Bool} {body : Plan} {base : Nat}
      {tasks : List Task}
      (label : labels base =
        .enter base (.upTo (count + 1) width greedy body) :: tasks)
      (first : Labels labels body (base + 1)
        (.enter (base + width + 1) (.upTo count width greedy body) :: tasks))
      (others : Labels labels (.upTo count width greedy body)
        (base + width + 1) tasks) :
      Labels labels (.upTo (count + 1) width greedy body) base tasks
  | star {greedy : Bool} {body : Plan} {base : Nat} {tasks : List Task}
      (label : labels base = .enter base (.star greedy body) :: tasks)
      (inner : Labels labels body (base + 1)
        (.enter base (.star greedy body) :: tasks)) :
      Labels labels (.star greedy body) base tasks
  | loop {greedy : Bool} {body : Plan} {base : Nat} {tasks : List Task}
      (label : labels base = .again base greedy body :: tasks)
      (inner : Labels labels body (base + 1)
        (.again base greedy body :: tasks)) :
      Labels labels (.loop greedy body) base tasks

/-- What a table says about a plan depends only on the numbers of the plan. -/
theorem Labels.congr {labels labels' : Nat → List Task} {plan : Plan}
    {base : Nat} {tasks : List Task} (given : Labels labels plan base tasks)
    (numbered : plan.Numbered)
    (agree : ∀ state, base ≤ state → state < base + plan.width →
      labels' state = labels state) :
    Labels labels' plan base tasks := by
  induction given with
  | skip | check | timesZero | upToZero => constructor
  | read label =>
      have own := agree _ (Nat.le_refl _) (Nat.lt_succ_self _)
      exact .read (own.trans label)
  | capture inner hypothesis => exact .capture (hypothesis numbered agree)
  | seq first second firstHypothesis secondHypothesis =>
      rcases numbered with ⟨rfl, firstNumbered, secondNumbered⟩
      simp only [width] at agree
      exact .seq
        (firstHypothesis firstNumbered fun state lower upper =>
          agree state lower (by omega))
        (secondHypothesis secondNumbered fun state lower upper =>
          agree state (by omega) (by omega))
  | choose label first second firstHypothesis secondHypothesis =>
      rcases numbered with ⟨rfl, firstNumbered, secondNumbered⟩
      simp only [width] at agree
      have own := agree _ (Nat.le_refl _) (by omega)
      exact .choose (own.trans label)
        (firstHypothesis firstNumbered fun state lower upper =>
          agree state (by omega) (by omega))
        (secondHypothesis secondNumbered fun state lower upper =>
          agree state (by omega) (by omega))
  | timesSucc first others firstHypothesis othersHypothesis =>
      have widths := numbered.1
      simp only [width, Nat.succ_mul] at agree
      exact .timesSucc
        (firstHypothesis numbered.2 fun state lower upper =>
          agree state lower (by omega))
        (othersHypothesis numbered fun state lower upper =>
          agree state (by omega) (by simp only [width] at upper; omega))
  | upToSucc label first others firstHypothesis othersHypothesis =>
      have widths := numbered.1
      simp only [width, Nat.succ_mul] at agree
      have own := agree _ (Nat.le_refl _) (by omega)
      exact .upToSucc (own.trans label)
        (firstHypothesis numbered.2 fun state lower upper =>
          agree state (by omega) (by omega))
        (othersHypothesis numbered fun state lower upper =>
          agree state (by omega) (by simp only [width] at upper; omega))
  | star label inner hypothesis =>
      simp only [width] at agree
      have own := agree _ (Nat.le_refl _) (by omega)
      exact .star (own.trans label)
        (hypothesis numbered fun state lower upper =>
          agree state (by omega) (by omega))
  | loop label inner hypothesis =>
      simp only [width] at agree
      have own := agree _ (Nat.le_refl _) (by omega)
      exact .loop (own.trans label)
        (hypothesis numbered fun state lower upper =>
          agree state (by omega) (by omega))

/-- One table below a number and another one from there on. -/
def splice (border : Nat) (low high : Nat → List Task) : Nat → List Task :=
  fun state => if state < border then low state else high state

theorem splice_low {border state : Nat} (low high : Nat → List Task)
    (below : state < border) : splice border low high state = low state :=
  if_pos below

theorem splice_high {border state : Nat} (low high : Nat → List Task)
    (above : border ≤ state) : splice border low high state = high state :=
  if_neg (Nat.not_lt.2 above)

theorem Labels.spliceLow {border base : Nat} {low : Nat → List Task}
    {plan : Plan} {tasks : List Task} (given : Labels low plan base tasks)
    (numbered : plan.Numbered) (high : Nat → List Task)
    (below : base + plan.width ≤ border) :
    Labels (splice border low high) plan base tasks :=
  given.congr numbered fun _ _ upper =>
    splice_low low high (Nat.lt_of_lt_of_le upper below)

theorem Labels.spliceHigh {border base : Nat} {high : Nat → List Task}
    {plan : Plan} {tasks : List Task} (given : Labels high plan base tasks)
    (numbered : plan.Numbered) (low : Nat → List Task)
    (above : border ≤ base) :
    Labels (splice border low high) plan base tasks :=
  given.congr numbered fun _ lower _ =>
    splice_high low high (Nat.le_trans above lower)

/-- Wherever a plan begins and whatever is behind it, its states have a table. -/
theorem exists_labels (plan : Plan) (numbered : plan.Numbered) (base : Nat)
    (tasks : List Task) : ∃ labels, Labels labels plan base tasks := by
  induction plan generalizing base tasks with
  | skip => exact ⟨fun _ => [], .skip base tasks⟩
  | check condition => exact ⟨fun _ => [], .check condition base tasks⟩
  | read set => exact ⟨fun _ => .enter base (.read set) :: tasks, .read rfl⟩
  | capture index body hypothesis =>
      rcases hypothesis numbered base (.close index 0 :: tasks) with
        ⟨labels, inner⟩
      exact ⟨labels, .capture inner⟩
  | seq left offset right leftHypothesis rightHypothesis =>
      rcases numbered with ⟨rfl, leftNumbered, rightNumbered⟩
      rcases leftHypothesis leftNumbered base
        (.enter (base + left.width) right :: tasks) with ⟨low, first⟩
      rcases rightHypothesis rightNumbered (base + left.width) tasks with
        ⟨high, second⟩
      exact ⟨splice (base + left.width) low high,
        .seq (first.spliceLow leftNumbered high (Nat.le_refl _))
          (second.spliceHigh rightNumbered low (Nat.le_refl _))⟩
  | choose left offset right leftHypothesis rightHypothesis =>
      rcases numbered with ⟨rfl, leftNumbered, rightNumbered⟩
      rcases leftHypothesis leftNumbered (base + 1) tasks with ⟨low, first⟩
      rcases rightHypothesis rightNumbered (base + (left.width + 1)) tasks with
        ⟨high, second⟩
      let own := Task.enter base (.choose left (left.width + 1) right) :: tasks
      refine ⟨splice (base + 1) (fun _ => own)
        (splice (base + (left.width + 1)) low high), .choose ?_ ?_ ?_⟩
      · exact splice_low _ _ (Nat.lt_succ_self base)
      · exact (first.spliceLow leftNumbered high (by omega)).spliceHigh
          leftNumbered _ (Nat.le_refl _)
      · exact (second.spliceHigh rightNumbered low (Nat.le_refl _)).spliceHigh
          rightNumbered _ (by omega)
  | times count width body hypothesis =>
      rcases numbered with ⟨rfl, bodyNumbered⟩
      induction count generalizing base with
      | zero => exact ⟨fun _ => [], .timesZero _ _ _ _⟩
      | succ count othersHypothesis =>
          rcases hypothesis bodyNumbered base
            (.enter (base + body.width) (.times count body.width body) :: tasks)
            with ⟨low, first⟩
          rcases othersHypothesis (base + body.width) with ⟨high, others⟩
          refine ⟨splice (base + body.width) low high, .timesSucc ?_ ?_⟩
          · exact first.spliceLow bodyNumbered high (Nat.le_refl _)
          · exact others.spliceHigh ⟨rfl, bodyNumbered⟩ low (Nat.le_refl _)
  | upTo count width greedy body hypothesis =>
      rcases numbered with ⟨rfl, bodyNumbered⟩
      induction count generalizing base with
      | zero => exact ⟨fun _ => [], .upToZero _ _ _ _ _⟩
      | succ count othersHypothesis =>
          rcases hypothesis bodyNumbered (base + 1)
            (.enter (base + body.width + 1)
              (.upTo count body.width greedy body) :: tasks) with ⟨low, first⟩
          rcases othersHypothesis (base + body.width + 1) with ⟨high, others⟩
          let own :=
            Task.enter base (.upTo (count + 1) body.width greedy body) :: tasks
          refine ⟨splice (base + 1) (fun _ => own)
            (splice (base + body.width + 1) low high), .upToSucc ?_ ?_ ?_⟩
          · exact splice_low _ _ (Nat.lt_succ_self base)
          · exact (first.spliceLow bodyNumbered high (by omega)).spliceHigh
              bodyNumbered _ (Nat.le_refl _)
          · exact (others.spliceHigh ⟨rfl, bodyNumbered⟩ low
              (Nat.le_refl _)).spliceHigh ⟨rfl, bodyNumbered⟩ _ (by omega)
  | star greedy body hypothesis =>
      let own := Task.enter base (.star greedy body) :: tasks
      rcases hypothesis numbered (base + 1) own with ⟨high, inner⟩
      refine ⟨splice (base + 1) (fun _ => own) high, .star ?_ ?_⟩
      · exact splice_low _ _ (Nat.lt_succ_self base)
      · exact inner.spliceHigh numbered _ (Nat.le_refl _)
  | loop greedy body hypothesis =>
      let own := Task.again base greedy body :: tasks
      rcases hypothesis numbered (base + 1) own with ⟨high, inner⟩
      refine ⟨splice (base + 1) (fun _ => own) high, .loop ?_ ?_⟩
      · exact splice_low _ _ (Nat.lt_succ_self base)
      · exact inner.spliceHigh numbered _ (Nat.le_refl _)

end Plan

theorem Regex.numbered_plan (regex : Regex) : regex.plan.Numbered := by
  induction regex with
  | empty | one | assertion => exact trivial
  | group index body hypothesis => exact hypothesis
  | seq left right leftNumbered rightNumbered =>
      exact ⟨rfl, leftNumbered, rightNumbered⟩
  | alt left right leftNumbered rightNumbered =>
      exact ⟨rfl, leftNumbered, rightNumbered⟩
  | iterate body repetition hypothesis =>
      exact Plan.numbered_iterate hypothesis _ _

/-- A table gives the tasks with which a thread will enter its states. -/
inductive Task.Labelled (labels : Nat → List Task) : List Task → Prop where
  | nil : Labelled labels []
  | enter {base : Nat} {plan : Plan} {tasks : List Task}
      (inner : plan.Labels labels base (tasks.map shape))
      (behind : Labelled labels tasks) :
      Labelled labels (.enter base plan :: tasks)
  | again {base : Nat} {greedy : Bool} {body : Plan} {tasks : List Task}
      (label : labels base = .again base greedy body :: tasks.map shape)
      (inner : body.Labels labels (base + 1)
        (.again base greedy body :: tasks.map shape))
      (behind : Labelled labels tasks) :
      Labelled labels (.again base greedy body :: tasks)
  | close {tasks : List Task} (index start : Nat)
      (behind : Labelled labels tasks) :
      Labelled labels (.close index start :: tasks)

namespace Thread

variable {labels : Nat → List Task}

/-- The threads of an offer are labelled if both of its lists of tasks are. -/
theorem labelled_offer {thread next : Thread} {state : Nat} {greedy : Bool}
    {more tasks : List Task} (stay : Task.Labelled labels (more ++ tasks))
    (leave : Task.Labelled labels tasks)
    (goesOn : next ∈ (thread.offer state greedy more tasks).threads) :
    Task.Labelled labels next.tasks := by
  cases greedy <;> rcases List.mem_cons.1 goesOn with rfl | goesOn
  · exact leave
  · rw [List.mem_singleton.1 goesOn]
    exact stay
  · exact stay
  · rw [List.mem_singleton.1 goesOn]
    exact leave

theorem labelled_enter {place : Place} {thread next : Thread} {base : Nat}
    {tasks : List Task} {plan : Plan}
    (inner : plan.Labels labels base (tasks.map Task.shape))
    (behind : Task.Labelled labels tasks)
    (goesOn : next ∈ (thread.enter place base tasks plan).threads) :
    Task.Labelled labels next.tasks := by
  cases inner with
  | skip | timesZero | upToZero =>
      rw [List.mem_singleton.1 goesOn]
      exact behind
  | read label =>
      simp only [enter] at goesOn
      split at goesOn
      · rw [List.mem_singleton.1 goesOn]
        exact behind
      · cases goesOn
  | check condition =>
      simp only [enter] at goesOn
      split at goesOn
      · rw [List.mem_singleton.1 goesOn]
        exact behind
      · cases goesOn
  | capture inner =>
      rw [List.mem_singleton.1 goesOn]
      exact .enter inner (.close _ _ behind)
  | seq first second =>
      rw [List.mem_singleton.1 goesOn]
      exact .enter first (.enter second behind)
  | choose label first second =>
      rcases List.mem_cons.1 goesOn with rfl | goesOn
      · exact .enter first behind
      · rw [List.mem_singleton.1 goesOn]
        exact .enter second behind
  | timesSucc first others =>
      rw [List.mem_singleton.1 goesOn]
      exact .enter first (.enter others behind)
  | upToSucc label first others =>
      exact labelled_offer (.enter first (.enter others behind)) behind goesOn
  | star label inner =>
      exact labelled_offer (.enter inner (.enter (.star label inner) behind))
        behind goesOn
  | loop label inner =>
      rw [List.mem_singleton.1 goesOn]
      exact .enter inner (.again label inner behind)

/-- The threads after a step are labelled like the thread before it. -/
theorem labelled_step {place : Place} {thread next : Thread}
    (labelled : Task.Labelled labels thread.tasks)
    (goesOn : next ∈ (thread.step place).threads) :
    Task.Labelled labels next.tasks := by
  rcases thread with ⟨tasks, captures⟩
  cases labelled with
  | nil => cases goesOn
  | enter inner behind => exact labelled_enter inner behind goesOn
  | again label inner behind =>
      exact labelled_offer (.enter inner (.again label inner behind)) behind
        goesOn
  | close index start behind =>
      rw [List.mem_singleton.1 goesOn]
      exact behind

theorem state?_offer (thread : Thread) (state : Nat) (greedy : Bool)
    (more tasks : List Task) :
    (thread.offer state greedy more tasks).state? = some state := by
  cases greedy <;> rfl

/-- A thread enters a state with the tasks that the table gives. -/
theorem label_enter {place : Place} {thread : Thread} {base state : Nat}
    {tasks : List Task} {plan : Plan}
    (inner : plan.Labels labels base (tasks.map Task.shape))
    (entered : (thread.enter place base tasks plan).state? = some state) :
    .enter base plan :: tasks.map Task.shape = labels state := by
  cases inner with
  | skip | capture | seq | timesZero | timesSucc | upToZero | loop =>
      cases entered
  | check condition =>
      simp only [enter] at entered
      split at entered <;> cases entered
  | read label =>
      simp only [enter] at entered
      split at entered <;> cases entered
      exact label.symm
  | choose label first second =>
      cases entered
      exact label.symm
  | upToSucc label first others =>
      simp only [enter, state?_offer, Option.some.injEq] at entered
      rw [← entered]
      exact label.symm
  | star label inner =>
      simp only [enter, state?_offer, Option.some.injEq] at entered
      rw [← entered]
      exact label.symm

theorem label_step {place : Place} {thread : Thread} {state : Nat}
    (labelled : Task.Labelled labels thread.tasks)
    (entered : (thread.step place).state? = some state) :
    thread.tasks.map Task.shape = labels state := by
  rcases thread with ⟨tasks, captures⟩
  cases labelled with
  | nil | close => cases entered
  | enter inner behind => exact label_enter inner entered
  | again label inner behind =>
      simp only [step, state?_offer, Option.some.injEq] at entered
      rw [← entered]
      exact label.symm

end Thread

/-- The states of the plan of an expression determine the tasks that are left. -/
theorem Regex.exists_labelling (regex : Regex) :
    ∃ labels alive, Labelling labels alive ∧
      alive (Thread.start regex.plan) := by
  rcases Plan.exists_labels regex.plan regex.numbered_plan 0 [] with
    ⟨labels, given⟩
  refine ⟨labels, fun thread => Task.Labelled labels thread.tasks, ?_, ?_⟩
  · constructor
    · intro place thread next labelled goesOn
      exact Thread.labelled_step labelled goesOn
    · intro place thread state labelled entered
      exact Thread.label_step labelled entered
  · exact .enter given .nil

/--
An expression whose matches begin at the start of the text finds the first run
that backtracking finds.
-/
theorem Regex.find?_eq_head? {regex : Regex} {text : Text} {now later : Nat}
    {runs : List Run} (anchored : regex.leads .textStart = true)
    (yields : (Thread.start regex.plan).Yields (Place.start text) text
      now later runs)
    (nowLe : now ≤ regex.automaton.effort)
    (laterLe : later ≤ regex.automaton.effort) :
    regex.automaton.find? text = runs.head? := by
  rcases regex.exists_labelling with ⟨labels, alive, labelling, startAlive⟩
  have only : regex.automaton.candidates (Place.start text) [] none =
      [Thread.start regex.plan] := by
    simp [Automaton.candidates, Automaton.begins, Place.start,
      Regex.automaton]
  have found := Automaton.search_eq_head? labelling
    (show regex.automaton.anchored = true from anchored)
    (by rw [only]; exact Thread.AllYield.single yields) nowLe laterLe
    (by rw [only]; simpa using startAlive)
  rw [Automaton.find?, found, Option.or_none]

end BayesLex
