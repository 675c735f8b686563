import BayesLex.Proofs.Rule
import BayesLex.TokenStream

/-!
# The scan as a plain recursion

`RuleTable.lexemes` cuts a text into lexemes by plain recursion: the first rule
that recognises something at the beginning is followed by the rest, and where
no rule does, one character is a stray one.  There is no cursor, no queue and
no memo in it.

The main statements are about the lexer.  `Lexer.future` lists the tokens that
a lexer owes: those that are pending, and those of the plain recursion on the
text that remains, laid out behind the cursor.  A request hands out the first
token that is owed and leaves the others (`Lexer.Request.future`), so that no
number of requests loses or doubles a token (`Lexer.Sound.take`), and a scan
that is asked to the end hands out all of them (`tokens_scanAll`).
-/

namespace BayesLex

@[simp]
theorem Token.length_layout (start : Nat) (lexemes : List Lexeme) :
    (Token.layout start lexemes).length = lexemes.length := by
  rw [← List.length_map, Token.map_toLexeme_layout]

/-- Lexemes lie between the start of the first and the end of the last one. -/
theorem Token.bounds_of_mem_layout {start : Nat} {lexemes : List Lexeme}
    {token : Token} (member : token ∈ Token.layout start lexemes) :
    start ≤ token.start ∧
      token.stop ≤ start + Text.size (Lexeme.texts lexemes) := by
  induction lexemes generalizing start with
  | nil => cases member
  | cons lexeme lexemes hypothesis =>
      rw [Lexeme.texts_cons, Text.size_append]
      rcases List.mem_cons.1 member with rfl | later
      · refine ⟨Nat.le_refl _, ?_⟩
        simp only [Token.stop, Token.size]
        omega
      · rcases hypothesis later with ⟨behind, within⟩
        omega

/-- There are no more lexemes than characters, if none of them is empty. -/
theorem Lexeme.length_le_length_texts (lexemes : List Lexeme)
    (solid : ∀ lexeme ∈ lexemes, lexeme.text ≠ []) :
    lexemes.length ≤ (Lexeme.texts lexemes).length := by
  induction lexemes with
  | nil => exact Nat.le_refl 0
  | cons lexeme others hypothesis =>
      rcases List.forall_mem_cons.1 solid with ⟨first, rest⟩
      have positive := List.length_pos_iff.2 first
      have behind := hypothesis rest
      rw [Lexeme.texts_cons, List.length_append, List.length_cons]
      omega

namespace Match

/-- A single character that no rule accepts. -/
def stray (character : Char) : Match where
  first := { kind := .error, text := [character] }
  others := []

theorem covers_stray (character : Char) (rest : Text) :
    (stray character).Covers (character :: rest) := by
  constructor
  · exact ⟨rest, rfl⟩
  · simp [stray, lexemes]

/-- A text is made of the match that covers its beginning and of what follows. -/
theorem Covers.text_append_drop {found : Match} {text : Text}
    (covers : found.Covers text) :
    found.text ++ text.drop found.text.length = text := by
  rcases covers.begins with ⟨rest, rfl⟩
  rw [List.drop_left]

/-- There are no more lexemes than characters. -/
theorem Covers.length_lexemes_le {found : Match} {text : Text}
    (covers : found.Covers text) :
    found.lexemes.length ≤ found.text.length :=
  Lexeme.length_le_length_texts found.lexemes covers.solid

end Match

namespace RuleTable

/-- The first rule that recognises a beginning of a text, and what it finds. -/
def winner? (table : RuleTable) (rest : Text) : Option Winner :=
  table.findSome? fun rule =>
    (rule.recognise rest).map fun found => { rule, found }

/-- The match at the beginning of a text, which is stray if no rule wins. -/
def bite (table : RuleTable) (character : Char) (rest : Text) : Match :=
  match table.winner? (character :: rest) with
  | some winner => winner.found
  | none => Match.stray character

/-- What is reported of the match at an offset, where a text begins. -/
def report (table : RuleTable) (offset : Nat) (character : Char)
    (rest : Text) : Event :=
  match table.winner? (character :: rest) with
  | some winner =>
      .matched winner.rule.name offset (offset + Text.size winner.found.text)
  | none => .unrecognized character offset

theorem covers_of_winner? {table : RuleTable} {rest : Text} {winner : Winner}
    (wins : table.winner? rest = some winner) :
    winner.found.Covers rest := by
  rcases List.exists_of_findSome?_eq_some wins with ⟨rule, _, recognised⟩
  rcases Option.map_eq_some_iff.1 recognised with ⟨found, finds, rfl⟩
  exact Rule.covers_of_recognise finds

theorem covers_bite (table : RuleTable) (character : Char) (rest : Text) :
    (table.bite character rest).Covers (character :: rest) := by
  unfold bite
  split
  · rename_i winner wins
    exact covers_of_winner? wins
  · exact Match.covers_stray character rest

/-- The lexemes of a text by a table of rules. -/
def lexemes (table : RuleTable) : Text → List Lexeme
  | [] => []
  | character :: rest =>
      (table.bite character rest).lexemes ++
        lexemes table
          ((character :: rest).drop (table.bite character rest).text.length)
termination_by text => text.length
decreasing_by
  have positive := List.length_pos_iff.2
    (table.covers_bite character rest).text_ne_nil
  rw [List.length_drop, List.length_cons]
  omega

@[simp]
theorem lexemes_nil (table : RuleTable) : table.lexemes [] = [] := by
  rw [lexemes]

theorem lexemes_cons (table : RuleTable) (character : Char) (rest : Text) :
    table.lexemes (character :: rest) =
      (table.bite character rest).lexemes ++
        table.lexemes
          ((character :: rest).drop (table.bite character rest).text.length) := by
  rw [lexemes]

/-- The lexemes of a text are the text. -/
theorem texts_lexemes (table : RuleTable) (text : Text) :
    Lexeme.texts (table.lexemes text) = text := by
  fun_induction lexemes table text with
  | case1 => rfl
  | case2 character rest hypothesis =>
      rw [Lexeme.texts_append, hypothesis]
      exact (table.covers_bite character rest).text_append_drop

/-- No lexeme of a text is empty. -/
theorem lexemes_solid (table : RuleTable) (text : Text) :
    ∀ lexeme ∈ table.lexemes text, lexeme.text ≠ [] := by
  fun_induction lexemes table text with
  | case1 =>
      intro lexeme impossible
      cases impossible
  | case2 character rest hypothesis =>
      intro lexeme member
      rcases List.mem_append.1 member with bitten | later
      · exact (table.covers_bite character rest).solid lexeme bitten
      · exact hypothesis lexeme later

/-- The rules tried with a sound memo find what the table recognises. -/
theorem firstMatch_eq_winner? {left rest : Text} (table : RuleTable)
    (memo : WordMemo) (sound : memo.Sound (left ++ rest)) :
    (table.firstMatch (Text.size left) rest memo).1 = table.winner? rest ∧
      (table.firstMatch (Text.size left) rest memo).2.Sound
        (left ++ rest) := by
  induction table generalizing memo with
  | nil => exact ⟨rfl, sound⟩
  | cons rule table hypothesis =>
      rcases rule.match?_fst sound with ⟨found, sound'⟩
      simp only [firstMatch, winner?, List.findSome?_cons]
      cases outcome : rule.match? (Text.size left) rest memo with
      | mk result memo' =>
          rw [outcome] at found sound'
          cases result with
          | some result =>
              simp only [← found]
              exact ⟨rfl, sound'⟩
          | none =>
              simp only [← found]
              exact hypothesis memo' sound'

end RuleTable

namespace Lexer

/-- The cursor is a place of the source, and so are the words of the memo. -/
structure Sound (lexer : Lexer) : Prop where
  place : ∃ left, lexer.source = left ++ lexer.remaining ∧
    Text.size left = lexer.cursor
  memo : lexer.memo.Sound lexer.source

/-- The tokens that a lexer owes, if it is not cancelled. -/
def future (lexer : Lexer) : List Token :=
  lexer.pending ++
    Token.layout lexer.cursor (lexer.table.lexemes lexer.remaining)

theorem sound_new (table : RuleTable) (source : Text) :
    (new table source).Sound where
  place := ⟨[], rfl, rfl⟩
  memo := WordMemo.sound_empty source

/-- The cursor is a place of the source, and what remains lies behind it. -/
theorem Sound.drop?_cursor {lexer : Lexer} (sound : lexer.Sound) :
    Text.drop? lexer.cursor lexer.source = some lexer.remaining := by
  rcases sound.place with ⟨left, source, cursor⟩
  exact (Text.drop?_eq_some_iff _ _ _).2 ⟨left, source, cursor⟩

theorem Sound.size_source {lexer : Lexer} (sound : lexer.Sound) :
    Text.size lexer.source = lexer.cursor + Text.size lexer.remaining := by
  rcases sound.place with ⟨left, source, cursor⟩
  rw [source, Text.size_append, cursor]

theorem Sound.cursor_lt_iff {lexer : Lexer} (sound : lexer.Sound) :
    lexer.cursor < Text.size lexer.source ↔ lexer.remaining ≠ [] := by
  rw [sound.size_source, ne_eq, ← Text.size_eq_zero_iff]
  omega

/-- At the cursor of a sound lexer the match is the one of the plain scan. -/
theorem Sound.step_report {lexer : Lexer} {character : Char} {rest : Text}
    (sound : lexer.Sound) (remains : lexer.remaining = character :: rest) :
    ∃ memo, memo.Sound lexer.source ∧
      lexer.step character =
        lexer.pass (lexer.table.report lexer.cursor character rest)
          (lexer.table.bite character rest) memo := by
  rcases sound.place with ⟨left, source, cursor⟩
  have memoSound := sound.memo
  rw [source] at memoSound ⊢
  rcases lexer.table.firstMatch_eq_winner? _ memoSound with ⟨winner, sound'⟩
  rw [cursor] at winner sound'
  unfold Lexer.step RuleTable.report RuleTable.bite
  rw [← remains]
  split
  · rename_i winner' memo' outcome
    rw [outcome] at winner sound'
    rw [← winner]
    exact ⟨memo', sound', rfl⟩
  · rename_i memo' outcome
    rw [outcome] at winner sound'
    rw [← winner]
    exact ⟨memo', sound', rfl⟩

theorem Sound.step {lexer : Lexer} {character : Char} {rest : Text}
    (sound : lexer.Sound) (remains : lexer.remaining = character :: rest) :
    ∃ event memo, memo.Sound lexer.source ∧
      lexer.step character =
        lexer.pass event (lexer.table.bite character rest) memo := by
  rcases sound.step_report remains with ⟨memo, memoSound, step⟩
  exact ⟨_, memo, memoSound, step⟩

/-- To pass a match that covers what comes next keeps a lexer sound. -/
theorem Sound.pass {lexer : Lexer} {found : Match} {memo : WordMemo}
    (sound : lexer.Sound) (event : Event)
    (covers : found.Covers lexer.remaining)
    (memoSound : memo.Sound lexer.source) :
    (lexer.pass event found memo).lexer.Sound := by
  rcases sound.place with ⟨left, source, cursor⟩
  refine ⟨⟨left ++ found.text, ?_, ?_⟩, memoSound⟩
  · change lexer.source =
      left ++ found.text ++ lexer.remaining.drop found.text.length
    rw [List.append_assoc, covers.text_append_drop, source]
  · change Text.size (left ++ found.text) =
      lexer.cursor + Text.size found.text
    rw [Text.size_append, cursor]

/-- The match at the cursor and what is owed behind it were owed before it. -/
theorem pass_future {lexer : Lexer} {character : Char} {rest : Text}
    (event : Event) (memo : WordMemo) (nothingPending : lexer.pending = [])
    (remains : lexer.remaining = character :: rest) :
    let advance :=
      lexer.pass event (lexer.table.bite character rest) memo
    advance.token.toList ++ advance.lexer.future = lexer.future := by
  simp only [pass, future, nothingPending, remains, RuleTable.lexemes_cons,
    Match.lexemes, Option.toList_some, List.nil_append, List.cons_append,
    Token.layout_cons, Token.layout_append]
  rw [Match.text, Match.lexemes, Lexeme.texts_cons, Text.size_append,
    Nat.add_assoc]

/--
What a request brings about: a pending token, nothing because the scan has
ended, its end, its cancellation, or the match at the cursor.
-/
inductive Request (lexer : Lexer) (cancel : Bool) : Advance → Prop where
  | handOut (token : Token) (pending : List Token)
      (owed : lexer.pending = token :: pending) :
      Request lexer cancel
        { token := some token, events := [], lexer := { lexer with pending } }
  | ended (nothingPending : lexer.pending = [])
      (done : lexer.phase = .done) :
      Request lexer cancel { token := none, events := [], lexer }
  | finish (nothingPending : lexer.pending = [])
      (scanning : lexer.phase = .scanning)
      (atEnd : lexer.remaining = []) :
      Request lexer cancel
        { token := none
          events := [.finished lexer.cursor]
          lexer := { lexer with phase := .done } }
  | interrupt (nothingPending : lexer.pending = [])
      (scanning : lexer.phase = .scanning)
      (unfinished : lexer.remaining ≠ []) (asked : cancel = true) :
      Request lexer cancel
        { token := none
          events := [.cancelled lexer.cursor]
          lexer := { lexer with phase := .done, cancelled := true } }
  | pass (nothingPending : lexer.pending = [])
      (scanning : lexer.phase = .scanning)
      (character : Char) (rest : Text)
      (remains : lexer.remaining = character :: rest)
      (event : Event) (memo : WordMemo) (memoSound : memo.Sound lexer.source)
      (reported :
        event = lexer.table.report lexer.cursor character rest) :
      Request lexer cancel
        (lexer.pass event (lexer.table.bite character rest) memo)

theorem Sound.request {lexer : Lexer} (sound : lexer.Sound) (cancel : Bool) :
    lexer.Request cancel (lexer.next cancel) := by
  unfold Lexer.next
  split
  · rename_i token pending owed
    exact .handOut token pending owed
  · rename_i nothingPending done
    exact .ended nothingPending done
  · rename_i nothingPending scanning atEnd
    exact .finish nothingPending scanning atEnd
  · rename_i character rest nothingPending scanning remains
    cases cancel with
    | true =>
        exact .interrupt nothingPending scanning (by simp [remains]) rfl
    | false =>
        rcases sound.step_report remains with ⟨memo, memoSound, step⟩
        simp only [Bool.false_eq_true, if_false, step]
        exact .pass nothingPending scanning character rest remains _ memo
          memoSound rfl

/-- A request keeps a lexer sound. -/
theorem Request.sound {lexer : Lexer} {cancel : Bool} {advance : Advance}
    (request : lexer.Request cancel advance) (sound : lexer.Sound) :
    advance.lexer.Sound := by
  cases request with
  | handOut | finish | interrupt => exact ⟨sound.place, sound.memo⟩
  | ended => exact sound
  | pass _ _ character rest remains event memo memoSound =>
      have covers := lexer.table.covers_bite character rest
      rw [← remains] at covers
      exact sound.pass event covers memoSound

/-- A request changes neither the source nor the table. -/
theorem Request.unchanged {lexer : Lexer} {cancel : Bool} {advance : Advance}
    (request : lexer.Request cancel advance) :
    advance.lexer.source = lexer.source ∧ advance.lexer.table = lexer.table := by
  cases request <;> exact ⟨rfl, rfl⟩

/-- A request hands out the first token that is owed, if any, and no other. -/
theorem Request.future {lexer : Lexer} {cancel : Bool} {advance : Advance}
    (request : lexer.Request cancel advance) :
    advance.token.toList ++ advance.lexer.future = lexer.future := by
  cases request with
  | handOut token pending owed => simp [Lexer.future, owed]
  | ended | finish | interrupt => rfl
  | pass nothingPending _ character rest remains event memo =>
      exact pass_future event memo nothingPending remains

/-- A request that brings no token leaves an ended scan. -/
theorem Request.done {lexer : Lexer} {cancel : Bool} {advance : Advance}
    (request : lexer.Request cancel advance) (nothing : advance.token = none) :
    advance.lexer.phase = .done ∧ advance.lexer.pending = [] ∧
      (cancel = false → lexer.phase = .scanning →
        advance.lexer.remaining = []) := by
  cases request with
  | handOut => cases nothing
  | ended nothingPending done =>
      exact ⟨done, nothingPending, fun _ scanning => by simp [done] at scanning⟩
  | finish nothingPending _ atEnd =>
      exact ⟨rfl, nothingPending, fun _ _ => atEnd⟩
  | interrupt nothingPending _ _ asked =>
      exact ⟨rfl, nothingPending, fun notAsked => by simp [asked] at notAsked⟩
  | pass => cases nothing

/--
A request that brings a token keeps the phase, and leaves fewer tokens and
characters to come.
-/
theorem Request.progress {lexer : Lexer} {cancel : Bool} {advance : Advance}
    {token : Token} (request : lexer.Request cancel advance)
    (yielded : advance.token = some token) :
    advance.lexer.phase = lexer.phase ∧
      advance.lexer.pending.length + advance.lexer.remaining.length <
        lexer.pending.length + lexer.remaining.length := by
  cases request with
  | handOut token pending owed => exact ⟨rfl, by simp [owed]⟩
  | ended | finish | interrupt => cases yielded
  | pass nothingPending _ character rest remains event memo =>
      refine ⟨rfl, ?_⟩
      have covers := lexer.table.covers_bite character rest
      have fewer := covers.length_lexemes_le
      have shorter := covers.begins.length_le
      simp only [Lexer.pass, Token.length_layout, remains, List.length_drop,
        nothingPending, List.length_nil]
      simp only [Match.lexemes, List.length_cons] at fewer shorter ⊢
      omega

/-- The tokens and events that came before do not matter for what follows. -/
theorem takeFrom_eq (cancel : Bool) (tokens : List Token)
    (events : List Event) (count : Nat) (lexer : Lexer) :
    takeFrom cancel tokens events count lexer =
      { tokens := tokens.reverse ++ (lexer.take cancel count).tokens
        events := events.reverse ++ (lexer.take cancel count).events
        lexer := (lexer.take cancel count).lexer } := by
  induction count generalizing tokens events lexer with
  | zero => simp [take, takeFrom]
  | succ count hypothesis =>
      simp only [take, takeFrom]
      split
      · simp
      · rename_i token new next outcome
        rw [hypothesis (token :: tokens), hypothesis [token]]
        simp

theorem take_succ_of_none {lexer : Lexer} {cancel : Bool} (count : Nat)
    (nothing : (lexer.next cancel).token = none) :
    lexer.take cancel (count + 1) =
      { tokens := []
        events := (lexer.next cancel).events
        lexer := (lexer.next cancel).lexer } := by
  simp only [take, takeFrom]
  split
  · rename_i outcome
    simp [outcome]
  · rename_i outcome
    simp [outcome] at nothing

theorem take_succ_of_some {lexer : Lexer} {cancel : Bool} {token : Token}
    (count : Nat) (yielded : (lexer.next cancel).token = some token) :
    lexer.take cancel (count + 1) =
      let rest := (lexer.next cancel).lexer.take cancel count
      { tokens := token :: rest.tokens
        events := (lexer.next cancel).events ++ rest.events
        lexer := rest.lexer } := by
  simp only [take, takeFrom]
  split
  · rename_i outcome
    simp [outcome] at yielded
  · rename_i token' new next outcome
    rw [outcome] at yielded
    cases yielded
    rw [takeFrom_eq]
    simp [outcome, take]

/-- No number of requests changes the source or the table. -/
theorem Sound.take_unchanged {lexer : Lexer} (sound : lexer.Sound)
    (cancel : Bool) (count : Nat) :
    (lexer.take cancel count).lexer.source = lexer.source ∧
      (lexer.take cancel count).lexer.table = lexer.table := by
  induction count generalizing lexer with
  | zero => exact ⟨rfl, rfl⟩
  | succ count hypothesis =>
      have request := sound.request cancel
      cases outcome : (lexer.next cancel).token with
      | none =>
          rw [take_succ_of_none count outcome]
          exact request.unchanged
      | some token =>
          rw [take_succ_of_some count outcome, ← request.unchanged.1,
            ← request.unchanged.2]
          exact hypothesis (request.sound sound)

/-- Any number of requests keeps a lexer sound, and hands out what it owes. -/
theorem Sound.take {lexer : Lexer} (sound : lexer.Sound) (cancel : Bool)
    (count : Nat) :
    (lexer.take cancel count).lexer.Sound ∧
      (lexer.take cancel count).tokens ++
        (lexer.take cancel count).lexer.future = lexer.future := by
  induction count generalizing lexer with
  | zero => exact ⟨sound, rfl⟩
  | succ count hypothesis =>
      have request := sound.request cancel
      have owed := request.future
      cases outcome : (lexer.next cancel).token with
      | none =>
          rw [take_succ_of_none count outcome]
          exact ⟨request.sound sound, by simpa [outcome] using owed⟩
      | some token =>
          rw [take_succ_of_some count outcome]
          rcases hypothesis (request.sound sound) with ⟨soundRest, owedRest⟩
          refine ⟨soundRest, ?_⟩
          rw [outcome, Option.toList_some, List.singleton_append] at owed
          rw [← owed, ← owedRest]
          rfl

/--
More requests than tokens are pending and characters remain bring a lexer to
its end; if it is not cancelled, nothing remains there.
-/
theorem Sound.take_done {lexer : Lexer} (sound : lexer.Sound) (cancel : Bool)
    (count : Nat)
    (enough : lexer.pending.length + lexer.remaining.length < count) :
    (lexer.take cancel count).lexer.phase = .done ∧
      (lexer.take cancel count).lexer.pending = [] ∧
      (cancel = false → lexer.phase = .scanning →
        (lexer.take cancel count).lexer.remaining = []) := by
  induction count generalizing lexer with
  | zero => omega
  | succ count hypothesis =>
      have request := sound.request cancel
      cases outcome : (lexer.next cancel).token with
      | none =>
          rw [take_succ_of_none count outcome]
          exact request.done outcome
      | some token =>
          rcases request.progress outcome with ⟨phase, shorter⟩
          rw [take_succ_of_some count outcome, ← phase]
          exact hypothesis (request.sound sound) (by omega)

/-- A scan that is not cancelled ends where nothing remains. -/
theorem Sound.drain_done {lexer : Lexer} (sound : lexer.Sound)
    (scanning : lexer.phase = .scanning) :
    (lexer.drain false).lexer.phase = .done ∧
      (lexer.drain false).lexer.pending = [] ∧
      (lexer.drain false).lexer.remaining = [] := by
  rcases sound.take_done false _ (Nat.lt_succ_self _) with
    ⟨done, nothingPending, atEnd⟩
  exact ⟨done, nothingPending, atEnd rfl scanning⟩

/-- A scan that is not cancelled hands out all tokens that are owed. -/
theorem Sound.tokens_drain {lexer : Lexer} (sound : lexer.Sound)
    (scanning : lexer.phase = .scanning) :
    (lexer.drain false).tokens = lexer.future := by
  rcases sound.drain_done scanning with ⟨_, nothingPending, atEnd⟩
  have owed := (sound.take false
    (lexer.pending.length + lexer.remaining.length + 1)).2
  change (lexer.drain false).tokens ++ (lexer.drain false).lexer.future =
    lexer.future at owed
  rw [← owed, future, nothingPending, atEnd, RuleTable.lexemes_nil]
  simp

end Lexer

/-- A full scan gives the lexemes of the plain recursion, one behind the other. -/
theorem tokens_scanAll (table : RuleTable) (source : Text) :
    (scanAll table source).tokens =
      Token.layout 0 (table.lexemes source) :=
  (Lexer.sound_new table source).tokens_drain rfl

end BayesLex
