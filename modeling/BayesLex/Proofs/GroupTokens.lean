import BayesLex.Proofs.Queue
import BayesLex.Proofs.Regex.GroupSequence

/-!
# The tokens of capture groups

A pattern rule with groups cuts its match at the ends of the groups, passes over
a group that ends no farther than the ones before it, and gives what is left of
the match to the last kind.  For a pattern that is nothing but capture groups
one behind the other this comes to one token for each group that is not empty:
the groups follow each other without a gap and cover the match
(`Regex.group?_groups`), so none is passed over but the empty ones, and nothing
is left.
-/

namespace BayesLex

/--
The token for what a group has captured of the text behind an offset, unless
this is empty.
-/
def Capture.token? (offset : Nat) (text : Text) (kind : Kind)
    (span : Capture) : Option Token :=
  if span.start < span.stop then
    some
      { kind
        text := (text.drop span.start).take (span.stop - span.start)
        start := offset + Text.size (text.take span.start) }
  else
    none

/-- The tokens for what groups have captured, each of its own kind. -/
def Capture.tokens (offset : Nat) (text : Text) (kinds : List Kind)
    (spans : List Capture) : List Token :=
  (kinds.zip spans).filterMap fun (kind, span) => span.token? offset text kind

theorem Capture.tokens_cons (offset : Nat) (text : Text) (kind : Kind)
    (kinds : List Kind) (span : Capture) (spans : List Capture) :
    tokens offset text (kind :: kinds) (span :: spans) =
      (span.token? offset text kind).toList ++
        tokens offset text kinds spans := by
  simp only [tokens, List.zip_cons_cons, List.filterMap_cons]
  cases span.token? offset text kind <;> rfl

/-- Groups without a gap are cut into one token each, if they are not empty. -/
theorem Emission.layout_pieces {run : Run} (filler : Kind) (offset : Nat)
    (text : Text) {kinds : List Kind} {spans : List Capture}
    (length : kinds.length = spans.length) {index place : Nat}
    (abut : Capture.Abut run.taken place spans)
    (groups : ∀ number, run.group? (number + index) = spans[number]?) :
    Token.layout (offset + Text.size (text.take place))
        (pieces run filler kinds index place (text.drop place)) =
      Capture.tokens offset text kinds spans := by
  induction spans generalizing kinds index place with
  | nil =>
      cases List.eq_nil_of_length_eq_zero length
      cases abut
      simp [pieces, Capture.tokens]
  | cons span spans hypothesis =>
      cases kinds with
      | nil => cases length
      | cons kind kinds =>
          have group : run.group? index = some span := by
            rw [← Nat.zero_add index]
            exact groups 0
          have others (number : Nat) :
              run.group? (number + (index + 1)) = spans[number]? := by
            rw [Nat.add_comm index, ← Nat.add_assoc]
            exact groups (number + 1)
          rcases abut with ⟨rfl, ordered, behind⟩
          have rest := hypothesis (Nat.succ.inj length) behind others
          rw [Capture.tokens_cons, Capture.token?, ← rest]
          simp only [pieces, group]
          split
          · rw [Token.layout_cons, List.drop_drop, Nat.add_sub_cancel' ordered,
              Text.take_eq_append ordered, Text.size_append, ← Nat.add_assoc]
            rfl
          · have empty : span.start = span.stop := by omega
            rw [empty]
            rfl

namespace Rule

/--
An expression that is compiled as capture groups one behind the other, numbered
from one on, with bodies in which no other capture group stands.
-/
structure CompilesToGroups (compile? : Text → Option Engine)
    (expression : Text) (bodies : List Regex) : Prop where
  nonempty : bodies ≠ []
  ungrouped : ∀ body ∈ bodies, body.Ungrouped
  compiled : compile? (anchor expression) =
    some (Regex.chain (Regex.groupsFrom 1 bodies)).anchored.engine

/--
Valid expressions that open no capture group, put into parentheses one behind the
other, are such an expression in the syntax that is read here.

A syntax with flags needs more than that.  Where blanks and comments are skipped,
the comment at the end of one body runs on over the parentheses behind it, and
what has been put together is no row of groups any more.
-/
theorem compilesToGroups_of_captureless {texts : List Text}
    {bodies : List Regex} {engine : Engine} (nonempty : texts ≠ [])
    (captureless : List.Forall₂ Regex.Captureless texts bodies)
    (compiled : Regex.compile? (anchor (Regex.groupSequence texts)) =
      some engine) :
    CompilesToGroups Regex.compile? (Regex.groupSequence texts) bodies where
  nonempty := by
    rintro rfl
    exact nonempty (List.eq_nil_of_length_eq_zero captureless.length_eq)
  ungrouped := Regex.Captureless.ungrouped_of_forall₂ captureless
  compiled := by
    rcases Regex.compile?_eq_some_iff.1 compiled with ⟨regex, parsed, _⟩
    cases Regex.parse?_groupSequence captureless nonempty parsed
    exact Regex.compile?_of_parse? parsed

/-- A rule is made of groups in a row and one kind for each of them. -/
theorem CompilesToGroups.patternBy_eq {compile? : Text → Option Engine}
    {expression : Text} {bodies : List Regex} {kinds : List Kind}
    (groups : CompilesToGroups compile? expression bodies) (name : String)
    (count : kinds.length = bodies.length) :
    patternBy compile? name expression (.groups kinds) =
      .ok
        { name
          matcher :=
            .pattern (anchor expression)
              (Regex.chain (Regex.groupsFrom 1 bodies)).anchored.engine
              (.groups kinds) } := by
  refine patternBy_eq_ok_iff.2 ⟨_, groups.compiled, ?_, rfl⟩
  rintro _ ⟨⟩
  have numbers := Regex.groupCount_groups groups.ungrouped groups.nonempty 0
  rw [count, ← Nat.zero_add bodies.length, ← numbers]
  exact Nat.zero_max _

/-- An empty match does not count, and the pieces of any other one are pushed. -/
theorem push_pattern (name : String) (expression : Text) (engine : Engine)
    (kinds : List Kind) (left rest : Text) (queue : List Token)
    (memo : WordMemo) :
    ∃ applied,
      push { name, matcher := .pattern expression engine (.groups kinds) }
        (left ++ rest) (Text.size left) queue memo = some applied ∧
      ((applied.stop = none ∧ applied.queue = queue ∧
          ∀ run, engine.find? rest = some run → rest.take run.taken = []) ∨
        ∃ run, engine.find? rest = some run ∧
          applied.stop =
            some (Text.size left + Text.size (rest.take run.taken)) ∧
          applied.queue = queue ++ Token.layout (Text.size left)
            (Emission.pieces run (kinds.getLast?.getD .error) kinds 1 0
              rest)) := by
  rw [push, Text.drop?_size_append, Option.bind_some]
  change ∃ applied, (Matcher.pattern expression engine (.groups kinds)).push
    (left ++ rest) (Text.size left) rest queue memo = some applied ∧ _
  cases found : engine.find? rest with
  | none =>
      simp only [Matcher.push, found]
      refine ⟨_, rfl, .inl ⟨rfl, rfl, ?_⟩⟩
      rintro _ ⟨⟩
  | some run =>
      have fits := engine.fits found
      have texts := Emission.texts_pieces run (kinds.getLast?.getD .error)
        (fun _ _ => fits.stop_le) kinds 1 0 rest (Nat.zero_le _)
      rw [Matcher.push_groups found, Emission.cut, Outcome.of_ofLexemes?, texts]
      refine ⟨_, rfl, ?_⟩
      simp only [Outcome.appendTo]
      split
      · rename_i empty
        rw [empty] at texts ⊢
        refine .inl ⟨rfl, List.append_nil queue, ?_⟩
        rintro _ ⟨⟩
        exact texts.symm
      · exact .inr ⟨run, rfl, rfl, rfl⟩

/--
Groups mean what they say.  An expression is compiled as one or more capture
groups one behind the other, whose bodies capture nothing themselves.  With one kind for
each group it makes a rule.  Wherever this rule is applied in a source, either
there is no match but an empty one and nothing is pushed, or the groups of the
match follow each other without a gap from where it begins to where it ends, and
the tokens that are appended to the queue are what the groups have captured in
their order, but for the empty ones: each has the kind of its group and lies
where the group does.
-/
theorem push_groupSequence {compile? : Text → Option Engine}
    {expression : Text} {bodies : List Regex} {kinds : List Kind}
    (groups : CompilesToGroups compile? expression bodies)
    (count : kinds.length = bodies.length) (name : String) :
    let engine := (Regex.chain (Regex.groupsFrom 1 bodies)).anchored.engine
    ∃ rule, patternBy compile? name expression (.groups kinds) = .ok rule ∧
      rule.matcher = .pattern (anchor expression) engine (.groups kinds) ∧
      ∀ (left rest : Text) (queue : List Token) (memo : WordMemo),
        let offset := Text.size left
        ∃ applied, rule.push (left ++ rest) offset queue memo = some applied ∧
          ((applied.stop = none ∧ applied.queue = queue ∧
              ∀ run, engine.find? rest = some run → rest.take run.taken = []) ∨
            ∃ run spans, engine.find? rest = some run ∧
              (∀ index, run.group? (index + 1) = spans[index]?) ∧
              spans.length = bodies.length ∧ Capture.Abut run.taken 0 spans ∧
              applied.stop = some (offset + Text.size (rest.take run.taken)) ∧
              applied.queue =
                queue ++ Capture.tokens offset rest kinds spans) := by
  intro engine
  refine ⟨_, groups.patternBy_eq name count, rfl, ?_⟩
  intro left rest queue memo offset
  rcases push_pattern name (anchor expression) engine kinds left rest queue memo
    with ⟨applied, pushed, nothing | ⟨run, found, stop, queued⟩⟩
  · exact ⟨applied, pushed, .inl nothing⟩
  · rcases Regex.group?_groups groups.ungrouped found with
      ⟨spans, spanCount, abut, captured⟩
    have laid := Emission.layout_pieces (kinds.getLast?.getD .error)
      (Text.size left) rest (count.trans spanCount.symm) abut captured
    rw [List.take_zero, Text.size_nil, Nat.add_zero, List.drop_zero] at laid
    rw [laid] at queued
    exact ⟨applied, pushed, .inr
      ⟨run, spans, found, captured, spanCount, abut, stop, queued⟩⟩

/--
The first group gives back a character for the last one, and the group between
them is empty.
-/
theorem push_groupSequence_given_back :
    let texts := ["a*".toList, "b?".toList, "a+".toList]
    let kinds := [Kind.identifier, .operator, .keyword]
    let spans : List Capture := [⟨0, 2⟩, ⟨2, 2⟩, ⟨2, 3⟩]
    let tokens :=
      [Token.mk ⟨.identifier, "aa".toList⟩ 2, ⟨⟨.keyword, "a".toList⟩, 4⟩]
    Regex.groupSequence texts = "(a*)(b?)(a+)".toList ∧
      ∃ rule applied,
        pattern "back" (Regex.groupSequence texts) (.groups kinds) =
          .ok rule ∧
        rule.push "éaaa".toList 2 [] {} = some applied ∧
        Capture.Abut 3 0 spans ∧ applied.stop = some 5 ∧
        applied.queue = Capture.tokens 2 "aaa".toList kinds spans ∧
        applied.queue = tokens := by
  intro texts kinds spans tokens
  let character : Regex := .one (.single 'a')
  let bodies : List Regex :=
    [.iterate character ⟨0, none, true⟩,
      .iterate (.one (.single 'b')) ⟨0, some 1, true⟩,
      .iterate character ⟨1, none, true⟩]
  let regex := (Regex.chain (Regex.groupsFrom 1 bodies)).anchored
  have captureless : List.Forall₂ Regex.Captureless texts bodies :=
    .cons ⟨by decide +kernel, by decide +kernel⟩
      (.cons ⟨by decide +kernel, by decide +kernel⟩
        (.cons ⟨by decide +kernel, by decide +kernel⟩ .nil))
  have parsed : Regex.parse? (anchor (Regex.groupSequence texts)) =
      some regex := by
    decide +kernel
  have groups : CompilesToGroups Regex.compile? (Regex.groupSequence texts)
      bodies :=
    compilesToGroups_of_captureless (List.cons_ne_nil _ _) captureless
      (Regex.compile?_of_parse? parsed)
  have count : kinds.length = bodies.length := rfl
  have found : regex.engine.find? "aaa".toList =
      some { taken := 3, captures := [(3, ⟨2, 3⟩), (2, ⟨2, 2⟩), (1, ⟨0, 2⟩)] } := by
    decide +kernel
  have known : Capture.tokens 2 "aaa".toList kinds spans = tokens := by
    decide +kernel
  rcases push_groupSequence groups count "back" with ⟨rule, made, _, pushes⟩
  rcases pushes "é".toList "aaa".toList [] {} with
    ⟨applied, pushed, ⟨_, _, empty⟩ |
      ⟨run, spans, runFound, captured, length, abut, stop, queue⟩⟩
  · cases empty _ found
  · cases found.symm.trans runFound
    rcases List.length_eq_three.1 length with ⟨first, second, third, rfl⟩
    cases captured 0
    cases captured 1
    cases captured 2
    exact ⟨by decide +kernel, rule, applied, made, pushed, abut, stop, queue,
      queue.trans known⟩

end Rule

end BayesLex
