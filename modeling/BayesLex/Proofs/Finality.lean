import BayesLex.Proofs.Resumption

/-!
# The end of a scan is final

What every request keeps of the tokens handed out, of the events and of the
lexer holds wherever a session gets to: `Session.run_accumulates`, and
`Session.run_preserves` for the lexer alone.  In this way the phase of a scan
is tied to what is pending and to what remains: an ended scan has nothing
pending, and it has been cut short exactly when something remains.

Once a scan has ended, no request brings a token or an event, and none changes
the lexer, whatever happens to the flags.
-/

namespace BayesLex

namespace Lexer

/--
What every single request keeps of the tokens handed out, of the events and of
the lexer, several requests keep.
-/
theorem take_accumulates
    {property : List Token → List Event → Lexer → Prop} {cancel : Bool}
    (step : ∀ tokens events lexer, property tokens events lexer →
      property (tokens ++ (lexer.next cancel).token.toList)
        (events ++ (lexer.next cancel).events) (lexer.next cancel).lexer)
    (count : Nat) {tokens : List Token} {events : List Event} {lexer : Lexer}
    (holds : property tokens events lexer) :
    property (tokens ++ (lexer.take cancel count).tokens)
      (events ++ (lexer.take cancel count).events)
      (lexer.take cancel count).lexer := by
  induction count generalizing tokens events lexer with
  | zero =>
      change property (tokens ++ []) (events ++ []) lexer
      rw [List.append_nil, List.append_nil]
      exact holds
  | succ count hypothesis =>
      have next := step tokens events lexer holds
      cases outcome : (lexer.next cancel).token with
      | none =>
          rw [outcome] at next
          rw [take_succ_of_none count outcome]
          exact next
      | some token =>
          rw [outcome] at next
          have rest := hypothesis next
          rw [List.append_assoc, List.append_assoc] at rest
          rw [take_succ_of_some count outcome]
          exact rest

/--
A sound lexer whose phase agrees with the rest of its state: nothing is pending
at the end, and the scan has been cut short when it ended before its source.
-/
structure Coherent (lexer : Lexer) : Prop extends lexer.Sound where
  nothingPending : lexer.phase = .done → lexer.pending = []
  cutShort : lexer.cancelled = true ↔
    lexer.phase = .done ∧ lexer.remaining ≠ []

theorem coherent_new (table : RuleTable) (source : Text) :
    (new table source).Coherent where
  toSound := sound_new table source
  nothingPending := nofun
  cutShort := by simp [new]

theorem Coherent.not_cancelled {lexer : Lexer} (coherent : lexer.Coherent)
    (scanning : lexer.phase = .scanning) : lexer.cancelled = false := by
  cases cut : lexer.cancelled with
  | false => rfl
  | true => simpa [scanning] using (coherent.cutShort.1 cut).1

/-- A request keeps the phase in agreement with the rest. -/
theorem Request.coherent {lexer : Lexer} {cancel : Bool} {advance : Advance}
    (request : lexer.Request cancel advance) (coherent : lexer.Coherent) :
    advance.lexer.Coherent := by
  have sound := request.sound coherent.toSound
  cases request with
  | handOut token pending owed =>
      refine ⟨sound, fun done => ?_, coherent.cutShort⟩
      have nothing := coherent.nothingPending done
      rw [owed] at nothing
      cases nothing
  | ended => exact coherent
  | finish nothingPending scanning atEnd =>
      refine ⟨sound, fun _ => nothingPending, ?_⟩
      simp [coherent.not_cancelled scanning, atEnd]
  | interrupt nothingPending _ unfinished =>
      refine ⟨sound, fun _ => nothingPending, ?_⟩
      simp [unfinished]
  | pass _ scanning =>
      have notDone : lexer.phase ≠ .done := by simp [scanning]
      refine ⟨sound, fun done => absurd done notDone, ?_⟩
      simp [Lexer.pass, coherent.not_cancelled scanning, notDone]

/-- A request to an ended scan brings nothing and changes nothing. -/
theorem next_of_done {lexer : Lexer} (done : lexer.phase = .done)
    (nothingPending : lexer.pending = []) (cancel : Bool) :
    lexer.next cancel = { token := none, events := [], lexer } := by
  unfold next
  split
  · rename_i owed
    rw [nothingPending] at owed
    cases owed
  · rfl
  · rename_i scanning _
    rw [done] at scanning
    cases scanning
  · rename_i scanning _
    rw [done] at scanning
    cases scanning

theorem take_of_done {lexer : Lexer} (done : lexer.phase = .done)
    (nothingPending : lexer.pending = []) (cancel : Bool) (count : Nat) :
    lexer.take cancel count = { tokens := [], events := [], lexer } := by
  have next := next_of_done done nothingPending cancel
  cases count with
  | zero => rfl
  | succ count => rw [take_succ_of_none count (by rw [next]), next]

end Lexer

namespace Session

/-- The events that several requests bring about. -/
def log (session : Session) : List Command → List Event
  | [] => []
  | command :: commands =>
      let (_, events, next) := session.perform command
      events ++ next.log commands

section Accumulating

variable {property : List Token → List Event → Lexer → Prop}

theorem perform_accumulates
    (step : ∀ cancel tokens events lexer, property tokens events lexer →
      property (tokens ++ (lexer.next cancel).token.toList)
        (events ++ (lexer.next cancel).events) (lexer.next cancel).lexer)
    {session : Session} (command : Command) {tokens : List Token}
    {events : List Event} (holds : property tokens events session.lexer) :
    property (tokens ++ (session.perform command).1.handedOut)
      (events ++ (session.perform command).2.1)
      (session.perform command).2.2.lexer := by
  cases command with
  | next => exact step session.cancel tokens events session.lexer holds
  | take count =>
      exact Lexer.take_accumulates (step session.cancel) count holds
  | collect => exact Lexer.take_accumulates (step session.cancel) _ holds
  | raise | lower | attach =>
      change property (tokens ++ []) (events ++ []) session.lexer
      rw [List.append_nil, List.append_nil]
      exact holds

/--
What every request keeps of the tokens handed out, of the events and of the
lexer holds of a whole session.
-/
theorem run_accumulates
    (step : ∀ cancel tokens events lexer, property tokens events lexer →
      property (tokens ++ (lexer.next cancel).token.toList)
        (events ++ (lexer.next cancel).events) (lexer.next cancel).lexer)
    {session : Session} (commands : List Command) {tokens : List Token}
    {events : List Event} (holds : property tokens events session.lexer) :
    property (tokens ++ (session.run commands).1)
      (events ++ session.log commands) (session.run commands).2.lexer := by
  induction commands generalizing session tokens events with
  | nil =>
      change property (tokens ++ []) (events ++ []) session.lexer
      rw [List.append_nil, List.append_nil]
      exact holds
  | cons command commands hypothesis =>
      have rest := hypothesis (perform_accumulates step command holds)
      rw [List.append_assoc, List.append_assoc] at rest
      exact rest

end Accumulating

/-- A property that every request keeps holds wherever a session gets to. -/
theorem run_preserves {property : Lexer → Prop}
    (step : ∀ cancel lexer, property lexer →
      property (lexer.next cancel).lexer)
    {session : Session} (commands : List Command)
    (holds : property session.lexer) :
    property (session.run commands).2.lexer :=
  @run_accumulates (fun _ _ lexer => property lexer)
    (fun cancel _ _ lexer => step cancel lexer) session commands [] [] holds

theorem coherent_run (table : RuleTable) (source : Text)
    (commands : List Command) :
    ((Session.new table source).run commands).2.lexer.Coherent :=
  run_preserves
    (fun cancel _ coherent =>
      (coherent.toSound.request cancel).coherent coherent)
    commands (Lexer.coherent_new table source)

theorem source_run (table : RuleTable) (source : Text)
    (commands : List Command) :
    ((Session.new table source).run commands).2.lexer.source = source := by
  have kept : ∀ cancel (lexer : Lexer),
      lexer.Sound ∧ lexer.source = source →
      (lexer.next cancel).lexer.Sound ∧
        (lexer.next cancel).lexer.source = source := by
    rintro cancel lexer ⟨sound, same⟩
    have request := sound.request cancel
    exact ⟨request.sound sound, request.unchanged.1.trans same⟩
  exact (run_preserves kept commands
    ⟨Lexer.sound_new table source, rfl⟩).2

theorem perform_of_done {session : Session}
    (done : session.lexer.phase = .done)
    (nothingPending : session.lexer.pending = []) (command : Command) :
    (session.perform command).1.handedOut = [] ∧
      (session.perform command).2.1 = [] ∧
      (session.perform command).2.2.lexer = session.lexer := by
  have next := Lexer.next_of_done done nothingPending session.cancel
  have take := Lexer.take_of_done done nothingPending session.cancel
  cases command with
  | next => simp [perform, Reply.handedOut, next]
  | take count => simp [perform, Reply.handedOut, take]
  | collect => simp [perform, Reply.handedOut, Lexer.drain, take]
  | raise | lower | attach => exact ⟨rfl, rfl, rfl⟩

/-- Nothing that happens after the end of a scan brings or changes anything. -/
theorem run_of_done {session : Session}
    (done : session.lexer.phase = .done)
    (nothingPending : session.lexer.pending = [])
    (commands : List Command) :
    (session.run commands).1 = [] ∧ session.log commands = [] ∧
      (session.run commands).2.lexer = session.lexer := by
  induction commands generalizing session with
  | nil => exact ⟨rfl, rfl, rfl⟩
  | cons command commands hypothesis =>
      rcases perform_of_done done nothingPending command with
        ⟨noToken, noEvent, same⟩
      rw [← same] at done nothingPending
      rcases hypothesis done nothingPending with
        ⟨noTokens, noEvents, sameLater⟩
      refine ⟨?_, ?_, sameLater.trans same⟩
      · simp [run, noToken, noTokens]
      · simp [log, noEvent, noEvents]

/--
Wherever a session gets to, the cursor of its lexer is a place of the source,
an ended scan has nothing pending, and a scan is cancelled exactly when it has
ended before the end of the source.  After its end no request, and no change of
the flags, brings a token or an event or changes the lexer.
-/
theorem run_final (table : RuleTable) (source : Text)
    (commands : List Command) :
    let session := ((Session.new table source).run commands).2
    let lexer := session.lexer
    Text.drop? lexer.cursor source = some lexer.remaining ∧
      lexer.cursor ≤ Text.size source ∧
      (lexer.phase = .done → lexer.pending = []) ∧
      (lexer.cancelled = true ↔
        lexer.phase = .done ∧ lexer.cursor < Text.size source) ∧
      (lexer.phase = .done → ∀ later : List Command,
        (session.run later).1 = [] ∧ session.log later = [] ∧
          (session.run later).2.lexer = lexer) := by
  intro session lexer
  have coherent : lexer.Coherent := coherent_run table source commands
  have same : lexer.source = source := source_run table source commands
  have place := coherent.drop?_cursor
  have sized := coherent.size_source
  have before := coherent.cursor_lt_iff
  rw [same] at place sized before
  refine ⟨place, by omega, coherent.nothingPending, ?_, ?_⟩
  · rw [before]
    exact coherent.cutShort
  · intro done later
    exact run_of_done done (coherent.nothingPending done) later

/-- A scan that has been cancelled is not revived when its flag is lowered. -/
theorem run_final_cancelled :
    let table : RuleTable :=
      [{ name := "call", matcher := .head '(' .functionName .punctuation }]
    let session := ((Session.new table "f(x)".toList).run
      [.attach 0, .next, .raise 0, .collect, .lower 0]).2
    session.lexer.phase = .done ∧ session.lexer.cancelled = true ∧
      session.cancel = false ∧ ∀ later : List Command,
        (session.run later).1 = [] ∧ session.log later = [] ∧
          (session.run later).2.lexer = session.lexer := by
  intro table session
  have done : session.lexer.phase = .done := by decide +kernel
  have cut : session.lexer.cancelled = true := by decide +kernel
  exact ⟨done, cut, rfl, (run_final table "f(x)".toList _).2.2.2.2 done⟩

end Session

end BayesLex
