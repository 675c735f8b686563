import BayesLex.Proofs.Regex.Numbering
import BayesLex.Regex.Combinators

/-!
# The matches of common patterns

What an automaton finds is the first run of a backtracking search.  Here that
search is followed for the shapes of expression from which a lexical grammar
is made: a word, a choice between words, a repetition of a set of characters,
and these behind the assertion that the text starts.

Each statement leaves open what follows the expression, so that it serves for
every sequence in which the expression occurs.
-/

namespace BayesLex

/-- The place behind a word, where `rest` follows. -/
def Place.behind (place : Place) : Text → Text → Place
  | [], _ => place
  | _ :: word, rest => (place.pass (word ++ rest)).behind word rest

namespace Place

@[simp]
theorem taken_behind (place : Place) (word rest : Text) :
    (place.behind word rest).taken = place.taken + word.length := by
  induction word generalizing place with
  | nil => rfl
  | cons character word hypothesis =>
      rw [behind, hypothesis, List.length_cons]
      exact (Nat.add_right_comm _ _ _).trans (Nat.add_assoc _ _ _)

theorem behind_append (place : Place) (left right rest : Text) :
    place.behind (left ++ right) rest =
      (place.behind left (right ++ rest)).behind right rest := by
  induction left generalizing place with
  | nil => rfl
  | cons character left hypothesis =>
      rw [List.cons_append, behind, behind, hypothesis, List.append_assoc]

theorem after_behind {place : Place} {word rest : Text}
    (after : place.after = (word ++ rest).head?) :
    (place.behind word rest).after = rest.head? := by
  induction word generalizing place with
  | nil => exact after
  | cons character word hypothesis => exact hypothesis rfl

/-- The last character of a word stands before the place behind it. -/
theorem before_behind {place : Place} {word rest : Text}
    (after : place.after = (word ++ rest).head?) (solid : word ≠ []) :
    (place.behind word rest).before = word.getLast? := by
  induction word generalizing place with
  | nil => exact absurd rfl solid
  | cons character word hypothesis =>
      cases word with
      | nil => exact after
      | cons next word =>
          rw [List.getLast?_cons_cons]
          exact hypothesis rfl (List.cons_ne_nil _ _)

end Place

namespace Thread

/--
The search from a thread comes to an end with `best` as its preferred run,
after at most `now` steps at its place and at most `later` steps at any place
behind it.
-/
def Finds (place : Place) (text : Text) (thread : Thread) (now later : Nat)
    (best : Option Run) : Prop :=
  ∃ now' later' runs, now' ≤ now ∧ later' ≤ later ∧ runs.head? = best ∧
    thread.Yields place text now' later' runs

namespace Finds

variable {place : Place} {text : Text} {thread : Thread}
  {now now' later later' : Nat} {best best' : Option Run}

theorem mono (finds : thread.Finds place text now later best)
    (nowLe : now ≤ now') (laterLe : later ≤ later') :
    thread.Finds place text now' later' best := by
  rcases finds with ⟨steps, ahead, runs, stepsLe, aheadLe, first, yields⟩
  exact ⟨steps, ahead, runs, Nat.le_trans stepsLe nowLe,
    Nat.le_trans aheadLe laterLe, first, yields⟩

theorem accept (place : Place) (text : Text) (captures : Captures) :
    (Thread.mk [] captures).Finds place text 1 0
      (some { taken := place.taken, captures }) :=
  ⟨1, 0, _, Nat.le_refl 1, Nat.le_refl 0, rfl, .accept 0 rfl⟩

theorem fail (outcome : thread.step place = .fail) :
    thread.Finds place text 1 0 none :=
  ⟨1, 0, [], Nat.le_refl 1, Nat.le_refl 0, rfl, .fail 0 outcome⟩

theorem go {next : Thread} (outcome : thread.step place = .go next)
    (rest : next.Finds place text now later best) :
    thread.Finds place text (now + 1) later best := by
  rcases rest with ⟨steps, ahead, runs, stepsLe, aheadLe, first, yields⟩
  exact ⟨steps + 1, ahead, runs, Nat.succ_le_succ stepsLe, aheadLe, first,
    .go outcome yields⟩

theorem fork {state : Nat} {first second : Thread}
    (outcome : thread.step place = .fork state first second)
    (preferred : first.Finds place text now later best)
    (other : second.Finds place text now' later' best') :
    thread.Finds place text (now + now' + 1) (later + later')
      (best.or best') := by
  rcases preferred with ⟨steps, ahead, runs, stepsLe, aheadLe, rfl, yields⟩
  rcases other with ⟨steps', ahead', runs', stepsLe', aheadLe', rfl, yields'⟩
  exact ⟨_, _, _, Nat.succ_le_succ (Nat.add_le_add stepsLe stepsLe'),
    Nat.add_le_add aheadLe aheadLe', List.head?_append,
    .fork outcome yields yields'⟩

theorem read_fail {base : Nat} {set : CharSet} {tasks : List Task}
    {captures : Captures} (missing : place.after.any set.contains = false) :
    (Thread.mk (.enter base (.read set) :: tasks) captures).Finds place text 1
      0 none := by
  apply fail
  simp [step, enter, missing]

/--
A character of the set is passed, and the other tasks go on behind it; where
none comes next, there is no run.
-/
theorem read {bound base : Nat} {set : CharSet} {tasks : List Task}
    {captures : Captures} (after : place.after = text.head?)
    (found : ∀ character rest, text = character :: rest →
      set.contains character = true →
      (Thread.mk tasks captures).Finds (place.pass rest) rest bound bound best)
    (missing : text.head?.any set.contains = false → best = none) :
    (Thread.mk (.enter base (.read set) :: tasks) captures).Finds place text 1
      bound best := by
  cases next : text.head?.any set.contains with
  | false =>
      rw [missing next]
      rw [← after] at next
      exact (read_fail next).mono (Nat.le_refl 1) (Nat.zero_le _)
  | true =>
      cases text with
      | nil => cases next
      | cons character rest =>
          rcases found character rest rfl next with
            ⟨steps, ahead, runs, stepsLe, aheadLe, first, yields⟩
          have outcome :
              (Thread.mk (.enter base (.read set) :: tasks) captures).step
                place = .pass base (Thread.mk tasks captures) := by
            simp only [step, enter, after, next, if_true, doing]
          exact ⟨1, bound, runs, Nat.le_refl 1, Nat.le_refl bound, first,
            .pass outcome yields stepsLe aheadLe⟩

/-- A given character is passed, and the other tasks go on behind it. -/
theorem character {bound base : Nat} {expected : Char} {tasks : List Task}
    {captures : Captures} (after : place.after = text.head?)
    (found : ∀ rest, text = expected :: rest →
      (Thread.mk tasks captures).Finds (place.pass rest) rest bound bound best)
    (missing : text.head? ≠ some expected → best = none) :
    (Thread.mk (.enter base (.read (.single expected)) :: tasks)
      captures).Finds place text 1 bound best := by
  apply read after
  · intro character rest split member
    rw [CharSet.contains_single, beq_iff_eq] at member
    rw [member] at split
    exact found rest split
  · intro different
    apply missing
    intro next
    simp [next] at different

end Finds

end Thread

namespace Regex

/-- The expression for a word. -/
def literal (word : Text) : Regex :=
  chain (word.map fun character => one (.single character))

/-- The expression for one of some words, earlier ones preferred. -/
def anyOf : List Text → Regex
  | [] => empty
  | first :: others =>
      others.foldl (fun regex word => regex.alt (literal word)) (literal first)

/--
Whatever follows it, an expression matches those of the words with which the
text starts, in their order.
-/
def Spells (regex : Regex) (words : List Text) : Prop :=
  ∀ (place : Place) (text : Text) (base : Nat) (tasks : List Task)
    (captures : Captures) (bound : Nat) (best : Text → Option Run),
    place.after = text.head? →
    (∀ word ∈ words, ∀ rest, text = word ++ rest →
      (Thread.mk tasks captures).Finds (place.behind word rest) rest
        bound bound (best word)) →
    ∃ now, now < 3 * words.length ∧
      (Thread.mk (.enter base regex.plan :: tasks) captures).Finds place text
        now ((bound + 2) * words.length)
        ((words.filter fun word => word.isPrefixOf text).findSome? best)

theorem plan_literal_singleton (character : Char) :
    (literal [character]).plan = .read (.single character) := rfl

theorem plan_literal_cons (character next : Char) (word : Text) :
    (literal (character :: next :: word)).plan =
      .seq (.read (.single character)) 1 (literal (next :: word)).plan := rfl

theorem isPrefixOf_eq_false {first : Char} {word text : Text}
    (different : text.head? ≠ some first) :
    (first :: word).isPrefixOf text = false := by
  cases text with
  | nil => rfl
  | cons character rest =>
      have unlike : first ≠ character := by
        rintro rfl
        exact different rfl
      rw [List.isPrefixOf_cons_cons]
      simp [unlike]

/-- The search for a word, and then for what follows it. -/
theorem finds_literal {tasks : List Task} {captures : Captures}
    {bound : Nat} {best : Option Run} (first : Char) (word : Text)
    (place : Place) (text : Text) (base : Nat)
    (after : place.after = text.head?)
    (finds : ∀ rest, text = first :: word ++ rest →
      (Thread.mk tasks captures).Finds
        (place.behind (first :: word) rest) rest bound bound best) :
    (Thread.mk (.enter base (literal (first :: word)).plan :: tasks)
      captures).Finds place text 2 (bound + 2)
      (if (first :: word).isPrefixOf text then best else none) := by
  induction word generalizing first place text base with
  | nil =>
      rw [plan_literal_singleton]
      refine Thread.Finds.mono (Thread.Finds.character after ?_ ?_)
        (Nat.le_succ 1) (Nat.le_refl _)
      · intro rest split
        rw [split, List.isPrefixOf_cons_cons, beq_self_eq_true]
        exact (finds rest split).mono (Nat.le_add_right _ 2)
          (Nat.le_add_right _ 2)
      · intro different
        rw [isPrefixOf_eq_false different]
        rfl
  | cons second word hypothesis =>
      rw [plan_literal_cons]
      refine Thread.Finds.go rfl (Thread.Finds.character after ?_ ?_)
      · intro rest split
        have behind := hypothesis second (place.pass rest) rest (base + 1) rfl
          (by
            rintro others rfl
            exact finds others split)
        rw [split, List.isPrefixOf_cons_cons, beq_self_eq_true, Bool.true_and]
        exact behind.mono (Nat.le_add_left 2 _) (Nat.le_refl _)
      · intro different
        rw [isPrefixOf_eq_false different]
        rfl

theorem spells_literal {word : Text} (solid : word ≠ []) :
    (literal word).Spells [word] := by
  intro place text base tasks captures bound best after finds
  cases word with
  | nil => exact absurd rfl solid
  | cons first word =>
      refine ⟨2, Nat.lt_succ_self 2, ?_⟩
      have found := finds_literal first word place text base after
        (finds _ (List.mem_singleton_self _))
      rw [List.length_singleton, Nat.mul_one, List.filter_cons]
      split at found
      · rename_i begins
        rw [if_pos begins]
        simpa using found
      · rename_i differs
        rw [if_neg differs]
        exact found

theorem Spells.alt {left right : Regex} {words words' : List Text}
    (first : left.Spells words) (second : right.Spells words') :
    (left.alt right).Spells (words ++ words') := by
  intro place text base tasks captures bound best after finds
  rcases first place text (base + 1) tasks captures bound best after
    (fun word member => finds word (List.mem_append_left _ member))
    with ⟨now, nowLt, found⟩
  rcases second place text (base + (left.plan.width + 1)) tasks captures bound
    best after (fun word member => finds word (List.mem_append_right _ member))
    with ⟨now', nowLt', found'⟩
  refine ⟨now + now' + 1, ?_, ?_⟩
  · rw [List.length_append]
    omega
  · rw [List.length_append, Nat.mul_add, List.filter_append,
      List.findSome?_append]
    exact Thread.Finds.fork rfl found found'

theorem Spells.foldl {regex : Regex} {words : List Text}
    (spells : regex.Spells words) (others : List Text)
    (solid : ∀ word ∈ others, word ≠ []) :
    (others.foldl (fun regex word => regex.alt (literal word)) regex).Spells
      (words ++ others) := by
  induction others generalizing regex words with
  | nil => simpa using spells
  | cons word others hypothesis =>
      rcases List.forall_mem_cons.1 solid with ⟨first, rest⟩
      have extended := hypothesis (spells.alt (spells_literal first)) rest
      rw [List.append_assoc, List.singleton_append] at extended
      exact extended

/-- A choice between words matches those with which the text starts. -/
theorem spells_anyOf {words : List Text} (nonempty : words ≠ [])
    (solid : ∀ word ∈ words, word ≠ []) : (anyOf words).Spells words := by
  cases words with
  | nil => exact absurd rfl nonempty
  | cons first others =>
      rcases List.forall_mem_cons.1 solid with ⟨firstSolid, othersSolid⟩
      exact (spells_literal firstSolid).foldl others othersSolid

end Regex

namespace Thread

/--
A task that repeats a set of characters, as often as possible, before what
follows is done.
-/
def Repeats (repeater : Task) (base : Nat) (set : CharSet) : Prop :=
  ∀ (place : Place) (tasks : List Task) (captures : Captures),
    (Thread.mk (repeater :: tasks) captures).step place =
      (Thread.mk (repeater :: tasks) captures).offer base true
        [.enter (base + 1) (.read set), repeater] tasks

theorem repeats_star (base : Nat) (set : CharSet) :
    Repeats (.enter base (.star true (.read set))) base set :=
  fun _ _ _ => rfl

theorem repeats_again (base : Nat) (set : CharSet) :
    Repeats (.again base true (.read set)) base set :=
  fun _ _ _ => rfl

/--
Where one more character of the set could be passed, the tasks come to their
end at once, and find nothing there unless they have a match farther on.
-/
def StopsBefore (set : CharSet) (tasks : List Task) (captures : Captures)
    (now : Nat) (best : Option Run) : Prop :=
  ∀ (place : Place) (character : Char) (rest : Text),
    place.after = some character → set.contains character = true →
    ∃ other, (best = none → other = none) ∧
      (Thread.mk tasks captures).Finds place (character :: rest) now 0 other

variable {set : CharSet} {tasks : List Task} {captures : Captures}
  {now later : Nat} {best : Option Run}

/-- Where no character of the set comes next, a repetition is at its end. -/
theorem Repeats.stop {repeater : Task} {base : Nat}
    (repeats : Repeats repeater base set) {place : Place} {text : Text}
    (after : place.after = text.head?)
    (missing : text.head?.any set.contains = false)
    (last : (Thread.mk tasks captures).Finds place text now later best) :
    (Thread.mk (repeater :: tasks) captures).Finds place text (now + 2) later
      best := by
  have nothing :
      (Thread.mk (.enter (base + 1) (.read set) :: repeater :: tasks)
        captures).Finds place text 1 0 none := by
    rw [← after] at missing
    exact Finds.read_fail missing
  have found := Finds.fork (repeats place tasks captures) nothing last
  exact found.mono (by omega) (by omega)

/--
The search for as many characters of a set as possible, and then for what
follows them.
-/
theorem Repeats.finds {repeater : Task} {base : Nat}
    (repeats : Repeats repeater base set)
    (stops : StopsBefore set tasks captures now best)
    (place : Place) (text : Text) (after : place.after = text.head?)
    (last : (Thread.mk tasks captures).Finds
      (place.behind (text.takeWhile set.contains)
        (text.dropWhile set.contains))
      (text.dropWhile set.contains) now later best) :
    (Thread.mk (repeater :: tasks) captures).Finds place text (now + 2)
      (now + 2 + later) best := by
  induction text generalizing place with
  | nil =>
      exact (repeats.stop after rfl last).mono (Nat.le_refl _)
        (Nat.le_add_left _ _)
  | cons character rest hypothesis =>
      cases member : set.contains character with
      | false =>
          simp only [List.takeWhile_cons, List.dropWhile_cons, member,
            Bool.false_eq_true, if_false] at last
          exact (repeats.stop after member last).mono (Nat.le_refl _)
            (Nat.le_add_left _ _)
      | true =>
          simp only [List.takeWhile_cons, List.dropWhile_cons, member,
            if_true, Place.behind, List.takeWhile_append_dropWhile] at last
          have found := hypothesis (place.pass rest) rfl last
          have more :
              (Thread.mk (.enter (base + 1) (.read set) :: repeater :: tasks)
                captures).Finds place (character :: rest) 1 (now + 2 + later)
                best := by
            apply Finds.read after
            · rintro _ _ ⟨rfl, rfl⟩ _
              exact found.mono (Nat.le_add_right _ _) (Nat.le_refl _)
            · intro missing
              simp [member] at missing
          rcases stops place character rest after member with
            ⟨other, nothing, foundHere⟩
          have preferred : best.or other = best := by
            cases best with
            | none => exact nothing rfl
            | some run => rfl
          have both := Finds.fork (repeats place tasks captures) more foundHere
          rw [preferred] at both
          exact both.mono (by omega) (Nat.le_refl _)

/--
The search for at least one character of a set, then for as many as possible,
and then for what follows.
-/
theorem finds_loop (base : Nat) {place : Place} {text : Text}
    (after : place.after = text.head?)
    (stops : text.head?.any set.contains = true →
      StopsBefore set tasks captures now best)
    (last : text.head?.any set.contains = true →
      (Thread.mk tasks captures).Finds
        (place.behind (text.takeWhile set.contains)
          (text.dropWhile set.contains))
        (text.dropWhile set.contains) now later best)
    (missing : text.head?.any set.contains = false → best = none) :
    (Thread.mk (.enter base (.loop true (.read set)) :: tasks)
      captures).Finds place text 2 (now + 2 + later) best := by
  refine Finds.go rfl (Finds.read after ?_ missing)
  rintro character rest rfl member
  have behind := last member
  simp only [List.takeWhile_cons, List.dropWhile_cons, member, if_true,
    Place.behind, List.takeWhile_append_dropWhile] at behind
  have found := (repeats_again base set).finds (stops member) (place.pass rest)
    rest rfl behind
  exact found.mono (Nat.le_add_right _ _) (Nat.le_refl _)

end Thread

end BayesLex
