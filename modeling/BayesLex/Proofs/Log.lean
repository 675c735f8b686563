import BayesLex.Proofs.Application
import BayesLex.Proofs.Finality

/-!
# The log tells the scan

A scan goes from stage to stage.  At each of them the first rule that matches
there gives its tokens, or a character that no rule accepts becomes an error.
A `Stage` holds the bytes that are passed, the tokens that cover them and the
line of the log; `Stage.Of` tells by the outcomes of single rules which stages a
table has in a source.

The invariant of a session is `Lexer.Told`: there are stages one behind the
other, from the beginning to the cursor, whose lines are the log and whose tokens
are those handed out and those that are pending.  A request adds one stage at
most (`Lexer.Request.told`).  The main statement is about the log when a scan
has been asked to its end, whatever happened to the flags on the way.
-/

namespace BayesLex

/-- The tokens between two offsets. -/
def Token.within (start stop : Nat) (tokens : List Token) : List Token :=
  tokens.filter fun token => start ≤ token.start ∧ token.stop ≤ stop

namespace Token

theorem within_append (start stop : Nat) (left right : List Token) :
    within start stop (left ++ right) =
      within start stop left ++ within start stop right :=
  List.filter_append left right

theorem within_eq_self {start stop : Nat} {tokens : List Token}
    (inside : ∀ token ∈ tokens, start ≤ token.start ∧ token.stop ≤ stop) :
    within start stop tokens = tokens := by
  apply List.filter_eq_self.2
  intro token member
  exact decide_eq_true (inside token member)

theorem within_eq_nil {start stop : Nat} {tokens : List Token}
    (outside : ∀ token ∈ tokens, token.start < token.stop ∧
      (token.stop ≤ start ∨ stop ≤ token.start)) :
    within start stop tokens = [] := by
  apply List.filter_eq_nil_iff.2
  intro token member
  have apart := outside token member
  rw [decide_eq_true_eq]
  omega

end Token

/-- A step of a scan from one offset to another one, and what the log says. -/
structure Stage where
  start : Nat
  stop : Nat
  tokens : List Token
  message : Text
  deriving DecidableEq

namespace Stage

/-- The stages that the rules of a table have in a source. -/
inductive Of (table : RuleTable) (source : Text) : Stage → Prop where
  /-- A rule matches, and those before it in the table do not. -/
  | matched {before after : RuleTable} {rule : Rule} {start stop : Nat}
      {tokens : List Token}
      (order : table = before ++ rule :: after)
      (earlier : ∀ other ∈ before, other.outcome? source start = some {})
      (wins : rule.outcome? source start =
        some { stop := some stop, tokens }) :
      Of table source
        { start, stop, tokens
          message :=
            "[".toList ++ rule.name.toList ++ "] ".toList ++
              Text.ofBounds start stop }
  /-- No rule of the table matches. -/
  | unrecognized {character : Char} {start : Nat}
      (stands : Text.characterAt? start source = some character)
      (nothing : ∀ rule ∈ table, rule.outcome? source start = some {}) :
      Of table source
        { start
          stop := start + character.utf8Size
          tokens := [{ kind := .error, text := [character], start }]
          message :=
            "unrecognized character ".toList ++ Quoted.character character ++
              " at ".toList ++ Text.ofNat start }

/-- Stages one behind the other, none of them empty, between two offsets. -/
def Consecutive : Nat → List Stage → Nat → Prop
  | offset, [], stop => offset = stop
  | offset, stage :: stages, stop =>
      stage.start = offset ∧ stage.start < stage.stop ∧
        Consecutive stage.stop stages stop

end Stage

/-- The end of a scan, if it has been reached. -/
def Lexer.closing (lexer : Lexer) : List Event :=
  match lexer.phase, lexer.cancelled with
  | .scanning, _ => []
  | .done, false => [.finished lexer.cursor]
  | .done, true => [.cancelled lexer.cursor]

namespace RuleTable

/-- The stage at an offset, where a text begins. -/
def stage (table : RuleTable) (offset : Nat) (character : Char)
    (rest : Text) : Stage where
  start := offset
  stop := offset + Text.size (table.bite character rest).text
  tokens := Token.layout offset (table.bite character rest).lexemes
  message := (table.report offset character rest).message

theorem outcome?_of_recognise_none {rule : Rule} {left rest : Text}
    (nothing : (rule.recognise rest).map (Winner.mk rule) = none) :
    rule.outcome? (left ++ rest) (Text.size left) = some {} := by
  rw [rule.outcome?_size_append, Option.map_eq_none_iff.1 nothing]
  rfl

/-- The match of the plain scan and its report make up a stage. -/
theorem stage_of (table : RuleTable) (left : Text) (character : Char)
    (rest : Text) :
    (table.stage (Text.size left) character rest).Of table
      (left ++ character :: rest) := by
  unfold stage report bite
  cases wins : table.winner? (character :: rest) with
  | some winner =>
      rcases List.findSome?_eq_some_iff.1 wins with
        ⟨before, rule, after, order, recognised, nothing⟩
      rcases Option.map_eq_some_iff.1 recognised with ⟨found, finds, rfl⟩
      apply Stage.Of.matched order
      · intro other member
        exact outcome?_of_recognise_none (nothing other member)
      · rw [rule.outcome?_size_append, finds]
        rfl
  | none =>
      have nothing := List.findSome?_eq_none_iff.1 wins
      have size : Text.size (Match.stray character).text =
          character.utf8Size := by
        simp [Match.stray, Match.text, Match.lexemes]
      dsimp only
      rw [size]
      apply Stage.Of.unrecognized
      · rw [Text.characterAt?, Text.drop?_size_append]
        rfl
      · intro rule member
        exact outcome?_of_recognise_none (nothing rule member)

end RuleTable

namespace Stage

variable {table : RuleTable} {source : Text}

/-- The bytes of a stage hold its tokens. -/
theorem Of.bounds {stage : Stage} (genuine : stage.Of table source) :
    stage.start < stage.stop ∧ ∀ token ∈ stage.tokens,
      stage.start ≤ token.start ∧ token.start < token.stop ∧
        token.stop ≤ stage.stop := by
  cases genuine with
  | matched _ _ wins => exact Rule.bounds_of_outcome? wins
  | @unrecognized character start stands nothing =>
      have positive := character.utf8Size_pos
      constructor
      · exact Nat.lt_add_of_pos_right positive
      · intro token member
        rw [List.mem_singleton.1 member]
        simp [Token.stop, Token.size, positive]

theorem Consecutive.concat {offset : Nat} {stages : List Stage}
    {stage : Stage} (given : Consecutive offset stages stage.start)
    (solid : stage.start < stage.stop) :
    Consecutive offset (stages ++ [stage]) stage.stop := by
  induction stages generalizing offset with
  | nil => exact ⟨given.symm, solid, rfl⟩
  | cons first others hypothesis =>
      rcases given with ⟨start, firstSolid, rest⟩
      exact ⟨start, firstSolid, hypothesis rest⟩

/-- Stages one behind the other lie between the two offsets. -/
theorem Consecutive.start_le {offset stop : Nat} {stages : List Stage}
    (given : Consecutive offset stages stop) :
    ∀ stage ∈ stages, offset ≤ stage.start := by
  induction stages generalizing offset with
  | nil =>
      intro stage impossible
      cases impossible
  | cons first others hypothesis =>
      rcases given with ⟨start, solid, rest⟩
      intro stage member
      rcases List.mem_cons.1 member with rfl | later
      · omega
      · have behind := hypothesis rest stage later
        omega

/-- Between the ends of a stage lie its own tokens and no others. -/
theorem Consecutive.within {offset stop : Nat} {stages : List Stage}
    (given : Consecutive offset stages stop)
    (genuine : ∀ stage ∈ stages, stage.Of table source) :
    ∀ stage ∈ stages,
      Token.within stage.start stage.stop (stages.flatMap Stage.tokens) =
        stage.tokens := by
  induction stages generalizing offset with
  | nil =>
      intro stage impossible
      cases impossible
  | cons first others hypothesis =>
      rcases given with ⟨_, solid, rest⟩
      rcases List.forall_mem_cons.1 genuine with ⟨firstOf, othersOf⟩
      intro stage member
      rw [List.flatMap_cons, Token.within_append]
      rcases List.mem_cons.1 member with rfl | later
      · have own : Token.within stage.start stage.stop stage.tokens =
            stage.tokens := by
          apply Token.within_eq_self
          intro token among
          rcases firstOf.bounds.2 token among with ⟨behind, _, before⟩
          exact ⟨behind, before⟩
        -- A later stage begins at the end of this one at the earliest.
        have foreign : Token.within stage.start stage.stop
            (others.flatMap Stage.tokens) = [] := by
          apply Token.within_eq_nil
          intro token among
          rcases List.mem_flatMap.1 among with ⟨other, otherMember, inside⟩
          have bounds := (othersOf other otherMember).bounds.2 token inside
          have behind := rest.start_le other otherMember
          omega
        rw [own, foreign, List.append_nil]
      · have foreign :
            Token.within stage.start stage.stop first.tokens = [] := by
          apply Token.within_eq_nil
          intro token among
          have bounds := firstOf.bounds.2 token among
          have behind := rest.start_le stage later
          omega
        rw [foreign, List.nil_append]
        exact hypothesis rest othersOf stage later

end Stage

namespace Lexer

/--
The log and the tokens that have been handed out tell the stages by which a
lexer has come to where it stands.
-/
structure Told (tokens : List Token) (events : List Event) (lexer : Lexer) :
    Prop extends lexer.Coherent where
  stages : ∃ stages : List Stage,
    (∀ stage ∈ stages, stage.Of lexer.table lexer.source) ∧
      Stage.Consecutive 0 stages lexer.cursor ∧
      tokens ++ lexer.pending = stages.flatMap Stage.tokens ∧
      events.map Event.message =
        stages.map Stage.message ++ lexer.closing.map Event.message

theorem closing_of_scanning {lexer : Lexer}
    (scanning : lexer.phase = .scanning) : lexer.closing = [] := by
  rw [closing, scanning]

/--
A scan that has ended is at the end of its source, or it has been cancelled
before.
-/
theorem Coherent.closing_of_done {lexer : Lexer} (coherent : lexer.Coherent)
    (done : lexer.phase = .done) :
    (lexer.cancelled = false ∧
        lexer.closing = [.finished (Text.size lexer.source)] ∧
        lexer.cursor = Text.size lexer.source) ∨
      (lexer.cancelled = true ∧ lexer.closing = [.cancelled lexer.cursor] ∧
        lexer.cursor < Text.size lexer.source) := by
  cases cut : lexer.cancelled with
  | false =>
      have nothing : lexer.remaining = [] := by
        apply Classical.byContradiction
        intro remains
        have cancelled := coherent.cutShort.2 ⟨done, remains⟩
        rw [cut] at cancelled
        cases cancelled
      have atEnd : Text.size lexer.source = lexer.cursor := by
        rw [coherent.size_source, nothing, Text.size_nil, Nat.add_zero]
      refine Or.inl ⟨rfl, ?_, atEnd.symm⟩
      simp only [closing, done, cut, atEnd]
  | true =>
      refine Or.inr ⟨rfl, ?_, ?_⟩
      · simp only [closing, done, cut]
      · exact coherent.cursor_lt_iff.2 (coherent.cutShort.1 cut).2

theorem told_new (table : RuleTable) (source : Text) :
    Told [] [] (new table source) where
  toCoherent := coherent_new table source
  stages := ⟨[], by simp, rfl, rfl, rfl⟩

/-- The match at the cursor is a stage of the scan. -/
theorem Sound.stage_of {lexer : Lexer} {character : Char} {rest : Text}
    (sound : lexer.Sound) (remains : lexer.remaining = character :: rest) :
    (lexer.table.stage lexer.cursor character rest).Of lexer.table
      lexer.source := by
  rcases sound.place with ⟨left, source, cursor⟩
  have genuine := lexer.table.stage_of left character rest
  rw [cursor, ← remains, ← source] at genuine
  exact genuine

/-- A request adds a stage, or the end, or nothing to what is told. -/
theorem Request.told {lexer : Lexer} {cancel : Bool} {advance : Advance}
    {tokens : List Token} {events : List Event}
    (request : lexer.Request cancel advance)
    (told : lexer.Told tokens events) :
    advance.lexer.Told (tokens ++ advance.token.toList)
      (events ++ advance.events) := by
  have coherent := request.coherent told.toCoherent
  rcases told.stages with ⟨stages, genuine, consecutive, yielded, logged⟩
  cases request with
  | handOut token pending owed =>
      refine ⟨coherent, stages, genuine, consecutive, ?_, ?_⟩
      · simpa [owed] using yielded
      · rw [List.append_nil]
        exact logged
  | ended =>
      refine ⟨coherent, stages, genuine, consecutive, ?_, ?_⟩
      · simpa using yielded
      · rw [List.append_nil]
        exact logged
  | finish nothingPending scanning atEnd =>
      rw [closing_of_scanning scanning, List.map_nil, List.append_nil]
        at logged
      have whole := told.not_cancelled scanning
      refine ⟨coherent, stages, genuine, consecutive, ?_, ?_⟩
      · simpa using yielded
      · rw [List.map_append, logged]
        simp only [closing, whole]
  | interrupt nothingPending scanning =>
      rw [closing_of_scanning scanning, List.map_nil, List.append_nil]
        at logged
      refine ⟨coherent, stages, genuine, consecutive, ?_, ?_⟩
      · simpa using yielded
      · rw [List.map_append, logged]
        rfl
  | pass nothingPending scanning character rest remains event memo _ reported =>
      rw [closing_of_scanning scanning, List.map_nil, List.append_nil]
        at logged
      let stage := lexer.table.stage lexer.cursor character rest
      have stageOf : stage.Of lexer.table lexer.source :=
        told.stage_of remains
      refine ⟨coherent, stages ++ [stage], ?_, ?_, ?_, ?_⟩
      · exact List.forall_mem_append.2
          ⟨genuine, List.forall_mem_singleton.2 stageOf⟩
      · exact consecutive.concat stageOf.bounds.1
      · rw [List.flatMap_append, ← yielded, nothingPending]
        simp [stage, RuleTable.stage, Lexer.pass, Match.lexemes]
      · have still : (lexer.pass event
            (lexer.table.bite character rest) memo).lexer.closing = [] :=
          closing_of_scanning scanning
        rw [still, List.map_append, List.map_append, List.map_nil,
          List.append_nil, logged, reported]
        rfl

end Lexer

namespace Session

/-- Requests to a session that has answered others. -/
theorem run_append (session : Session) (commands others : List Command) :
    (session.run (commands ++ others)).2 =
      ((session.run commands).2.run others).2 := by
  induction commands generalizing session with
  | nil => rfl
  | cons command commands hypothesis => exact hypothesis _

/-- Wherever a session gets to, its log and its tokens tell the stages. -/
theorem told_run (table : RuleTable) (source : Text)
    (commands : List Command) :
    Lexer.Told ((Session.new table source).run commands).1
      ((Session.new table source).log commands)
      ((Session.new table source).run commands).2.lexer :=
  @run_accumulates Lexer.Told
    (fun cancel _ _ _ told => (told.toSound.request cancel).told told)
    (Session.new table source) commands [] [] (Lexer.told_new table source)

/-- To collect brings a scan to its end, and what comes later leaves it there. -/
theorem done_run (table : RuleTable) (source : Text)
    (commands later : List Command) :
    let lexer := ((Session.new table source).run
      (commands ++ .collect :: later)).2.lexer
    lexer.phase = .done ∧ lexer.pending = [] := by
  intro lexer
  have sound := (coherent_run table source commands).toSound
  let session := ((Session.new table source).run commands).2
  rcases sound.take_done session.cancel _ (Nat.lt_succ_self _) with
    ⟨done, nothingPending, _⟩
  have collected : (session.perform .collect).2.2.lexer.phase = .done ∧
      (session.perform .collect).2.2.lexer.pending = [] :=
    ⟨done, nothingPending⟩
  have same := (run_of_done collected.1 collected.2 later).2.2
  have whole : lexer = ((session.perform .collect).2.2.run later).2.lexer :=
    congrArg Session.lexer (run_append _ commands (.collect :: later))
  rw [whole, same]
  exact collected

/--
The log tells the scan.  When a scan has been asked to its end, whatever was
requested and whatever happened to the flags before and afterwards, its log is a
list of stages and one line more.  The stages lie one behind the other from the
beginning of the source to the cursor.  Each of them is the match of the first
rule that matches there, and gives the tokens handed out between its ends; or it
is a single character that no rule of the table matches.  The last line is that
the scan has come to the end of the source, or that it has been cancelled before.
-/
theorem log_tells_scan (table : RuleTable) (source : Text)
    (commands later : List Command) :
    let requests := commands ++ .collect :: later
    let log := (Session.new table source).log requests
    let yielded := ((Session.new table source).run requests).1
    let lexer := ((Session.new table source).run requests).2.lexer
    lexer.phase = .done ∧
      ∃ (stages : List Stage) (last : Text),
        log.map Event.message = stages.map Stage.message ++ [last] ∧
        Stage.Consecutive 0 stages lexer.cursor ∧
        yielded = stages.flatMap Stage.tokens ∧
        (∀ stage ∈ stages, stage.Of table source ∧
          Token.within stage.start stage.stop yielded = stage.tokens) ∧
        ((lexer.cancelled = false ∧
            last = "scan finished at ".toList ++
              Text.ofNat (Text.size source) ∧
            lexer.cursor = Text.size source) ∨
          (lexer.cancelled = true ∧
            last = "scan cancelled at ".toList ++ Text.ofNat lexer.cursor ∧
            lexer.cursor < Text.size source)) := by
  intro requests log yielded lexer
  have told : lexer.Told yielded log := told_run table source requests
  have sameTable : lexer.table = table :=
    ((continues_new table source).run requests).1.table
  have sameSource : lexer.source = source := source_run table source requests
  rcases done_run table source commands later with ⟨done, nothingPending⟩
  rcases told.stages with ⟨stages, genuine, consecutive, handedOut, logged⟩
  rw [sameTable, sameSource] at genuine
  change lexer.pending = [] at nothingPending
  rw [nothingPending, List.append_nil] at handedOut
  have ends := told.closing_of_done done
  rw [sameSource] at ends
  have own : ∀ stage ∈ stages, stage.Of table source ∧
      Token.within stage.start stage.stop yielded = stage.tokens := by
    intro stage member
    rw [handedOut]
    exact ⟨genuine stage member, consecutive.within genuine stage member⟩
  refine ⟨done, stages, ?_⟩
  rcases ends with ⟨whole, closing, atEnd⟩ | ⟨cut, closing, inside⟩
  · rw [closing] at logged
    exact ⟨_, logged, consecutive, handedOut, own, Or.inl ⟨whole, rfl, atEnd⟩⟩
  · rw [closing] at logged
    exact ⟨_, logged, consecutive, handedOut, own, Or.inr ⟨cut, rfl, inside⟩⟩

-- A flag that is raised between the two tokens of a match is heeded behind it,
-- and the end is logged once.
example :
    let table : RuleTable :=
      [{ name := "call", matcher := .head '(' .functionName .punctuation }]
    let commands := [.attach 0, .next, .raise 0, .next, .next, .collect]
    ((Session.new table "f(x)".toList).log commands).map Event.message =
      ["[call] 0..2".toList, "scan cancelled at 2".toList] := by
  decide +kernel

end Session

end BayesLex
