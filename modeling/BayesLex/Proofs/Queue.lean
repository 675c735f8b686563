import BayesLex.Proofs.Application

/-!
# Tokens pushed onto a queue

`Rule.push` applies a rule in the way of a program that works on byte offsets.
It appends tokens to a queue one after the other, and each of them is cut out of
the source between two offsets; a cut at an offset that is not a place of the
source has no result, and then the whole application has none.

With a sound memo this is `Rule.apply` (`Rule.push_eq`), so every cut falls
between two characters.  The main statement is that an application is all or
nothing.  It has no result exactly where it begins at no place of the source.
Otherwise it leaves the queue as it was, or it appends tokens that cover the
match without a gap.
-/

namespace BayesLex

namespace Text

theorem size_le_of_prefix {beginning text : Text} (begins : beginning <+: text) :
    size beginning ≤ size text := by
  rcases begins with ⟨rest, rfl⟩
  rw [size_append]
  exact Nat.le_add_right _ _

/-- A longer beginning of a text is a shorter one and what lies between. -/
theorem take_eq_append {near far : Nat} (ordered : near ≤ far) (text : Text) :
    text.take far = text.take near ++ (text.drop near).take (far - near) := by
  rw [← List.take_add, Nat.add_sub_cancel' ordered]

/-- Beginnings of a text are compared by their sizes. -/
theorem size_take_lt_iff {text : Text} (near : Nat) {far : Nat}
    (within : far ≤ text.length) :
    size (text.take near) < size (text.take far) ↔ near < far := by
  constructor
  · intro shorter
    rcases Nat.lt_or_ge near far with nearer | farther
    · exact nearer
    · rw [take_eq_append farther, size_append] at shorter
      omega
  · intro nearer
    have solid : (text.drop near).take (far - near) ≠ [] := by
      apply List.ne_nil_of_length_pos
      rw [List.length_take, List.length_drop]
      omega
    have positive := size_pos solid
    rw [take_eq_append (Nat.le_of_lt nearer), size_append]
    omega

end Text

/-- The token between two offsets of a source, if both are places of it. -/
def Token.between? (kind : Kind) (source : Text) (start stop : Nat) :
    Option Token :=
  (Text.slice? start stop source).map fun text => { kind, text, start }

/-- Between the borders of a middle part stands that part. -/
theorem Token.between?_append (kind : Kind) (left middle right : Text) :
    between? kind (left ++ middle ++ right) (Text.size left)
        (Text.size left + Text.size middle) =
      some { kind, text := middle, start := Text.size left } := by
  rw [between?, Text.slice?_append]
  rfl

/-- Between two places behind the same beginning stands what lies between. -/
theorem Token.between?_take (kind : Kind) (left text : Text)
    {place stop : Nat} (ordered : place ≤ stop) :
    between? kind (left ++ text) (Text.size left + Text.size (text.take place))
        (Text.size left + Text.size (text.take stop)) =
      some
        { kind
          text := (text.drop place).take (stop - place)
          start := Text.size left + Text.size (text.take place) } := by
  have longer := Text.take_eq_append ordered text
  have parts : left ++ text = left ++ text.take place ++
      (text.drop place).take (stop - place) ++ text.drop stop := by
    rw [List.append_assoc left, ← longer, List.append_assoc,
      List.take_append_drop]
  have token := between?_append kind (left ++ text.take place)
    ((text.drop place).take (stop - place)) (text.drop stop)
  rw [← parts, Text.size_append, Nat.add_assoc,
    ← Text.size_append (text.take place), ← longer] at token
  exact token

/-- The token that begins where a text begins and covers some of its characters. -/
theorem Token.between?_take_start (kind : Kind) (left text : Text)
    (count : Nat) :
    between? kind (left ++ text) (Text.size left)
        (Text.size left + Text.size (text.take count)) =
      some { kind, text := text.take count, start := Text.size left } :=
  between?_take kind left text (Nat.zero_le count)

/-- Where an applied rule has come to, with the queue and the memo it leaves. -/
structure Applied where
  stop : Option Nat
  queue : List Token
  memo : WordMemo
  deriving DecidableEq

/-- What an outcome makes of a queue. -/
def Outcome.appendTo (outcome : Outcome) (queue : List Token)
    (memo : WordMemo) : Applied where
  stop := outcome.stop
  queue := queue ++ outcome.tokens
  memo

theorem Outcome.of_ofLexemes? (offset : Nat) (lexemes : List Lexeme) :
    Outcome.of offset (Match.ofLexemes? lexemes) =
      { stop :=
          if lexemes = [] then none
          else some (offset + Text.size (Lexeme.texts lexemes))
        tokens := Token.layout offset lexemes } := by
  cases lexemes <;> rfl

namespace Emission

/--
Push a token for each group that ends farther than those before it, and one of
the kind `filler` for what they leave of the match, which ends at `stop`.  The
groups are numbered from `index`, and `position` is where the next token
begins.
-/
def pushGroups (source : Text) (ends : Nat → Option Nat) (filler : Kind)
    (stop : Nat) : List Kind → Nat → Nat → List Token → Option (List Token)
  | [], _, position, queue =>
      if position < stop then
        (Token.between? filler source position stop).map fun token =>
          queue ++ [token]
      else
        some queue
  | kind :: kinds, index, position, queue =>
      match ends index with
      | none => pushGroups source ends filler stop kinds (index + 1) position queue
      | some ending =>
          if position < ending then
            (Token.between? kind source position ending).bind fun token =>
              pushGroups source ends filler stop kinds (index + 1) ending
                (queue ++ [token])
          else
            pushGroups source ends filler stop kinds (index + 1) position queue

/-- The tokens that are pushed are the pieces of the match. -/
theorem pushGroups_eq (left : Text) {text : Text} {run : Run} (fits : run.Fits text)
    (filler : Kind) (kinds : List Kind) (index place : Nat)
    (reached : place ≤ run.taken) (queue : List Token) :
    pushGroups (left ++ text)
        (fun index => (run.group? index).map fun capture =>
          Text.size left + Text.size (text.take capture.stop))
        filler (Text.size left + Text.size (text.take run.taken)) kinds index
        (Text.size left + Text.size (text.take place)) queue =
      some (queue ++
        Token.layout (Text.size left + Text.size (text.take place))
          (pieces run filler kinds index place (text.drop place))) := by
  induction kinds generalizing index place queue with
  | nil =>
      have shorter := Text.size_take_lt_iff place fits.taken_le
      simp only [pushGroups, pieces, Nat.add_lt_add_iff_left, shorter,
        Token.between?_take filler left text reached]
      split
      · rfl
      · rw [Token.layout_nil, List.append_nil]
  | cons kind kinds hypothesis =>
      simp only [pushGroups, pieces]
      cases group : run.group? index with
      | none => exact hypothesis (index + 1) place reached queue
      | some capture =>
          have bound := fits.stop_le group
          have shorter := Text.size_take_lt_iff place
            (Nat.le_trans bound fits.taken_le)
          simp only [Option.map_some, Nat.add_lt_add_iff_left, shorter]
          split
          · rename_i farther
            have ordered := Nat.le_of_lt farther
            have longer : Text.size (text.take capture.stop) =
                Text.size (text.take place) + Text.size
                  ((text.drop place).take (capture.stop - place)) := by
              rw [← Text.size_append, ← Text.take_eq_append ordered]
            have behind : (text.drop place).drop (capture.stop - place) =
                text.drop capture.stop := by
              rw [List.drop_drop, Nat.add_sub_cancel' ordered]
            rw [Token.between?_take kind left text ordered, Option.bind_some,
              hypothesis (index + 1) capture.stop bound, behind,
              Token.layout_cons, List.append_assoc, List.singleton_append,
              longer, Nat.add_assoc]
          · exact hypothesis (index + 1) place reached queue

/-- The pieces have kinds of the groups in their order, and then the filler. -/
theorem kinds_pieces_sublist (run : Run) (filler : Kind) (kinds : List Kind)
    (index place : Nat) (rest : Text) :
    ((pieces run filler kinds index place rest).map Lexeme.kind).Sublist
      (kinds ++ [filler]) := by
  induction kinds generalizing index place rest with
  | nil =>
      rw [pieces]
      split
      · exact List.Sublist.refl _
      · exact List.nil_sublist _
  | cons kind kinds hypothesis =>
      rw [pieces]
      split
      · exact (hypothesis _ _ _).cons kind
      · split
        · exact (hypothesis _ _ _).cons_cons kind
        · exact (hypothesis _ _ _).cons kind

end Emission

/-- Push the text up to `stop` as one token, unless there is none. -/
def Applied.whole (kind : Kind) (source : Text) (offset stop : Nat)
    (queue : List Token) (memo : WordMemo) : Option Applied :=
  if offset < stop then
    (Token.between? kind source offset stop).map fun token =>
      { stop := some stop, queue := queue ++ [token], memo }
  else
    some { stop := none, queue, memo }

/--
Apply a matcher at an offset, where `rest` follows in the source.  All cuts are
made in the source, at offsets that are counted from its beginning.
-/
def Matcher.push (source : Text) (offset : Nat) (rest : Text)
    (queue : List Token) (memo : WordMemo) : Matcher → Option Applied
  | .scanner form kind =>
      Applied.whole kind source offset (offset + Text.size (form.scan rest))
        queue memo
  | .pattern _ engine emission =>
      match engine.find? rest, emission with
      | none, _ => some { stop := none, queue, memo }
      | some run, .one kind =>
          Applied.whole kind source offset
            (offset + Text.size (rest.take run.taken)) queue memo
      | some run, .groups kinds =>
          let stop := offset + Text.size (rest.take run.taken)
          if stop = offset then
            some { stop := none, queue, memo }
          else
            (Emission.pushGroups source
              (fun index => (run.group? index).map fun capture =>
                offset + Text.size (rest.take capture.stop))
              (kinds.getLast?.getD .error) stop kinds 1 offset queue).map
                fun queue => { stop := some stop, queue, memo }
  | .head opener nameKind openerKind =>
      match memo.lookup offset rest with
      | (none, memo) => some { stop := none, queue, memo }
      | (some word, memo) =>
          (Text.drop? word.stop source).bind fun behind =>
            if behind.head? = some opener then
              let stop := word.stop + opener.utf8Size
              (Token.between? nameKind source offset word.stop).bind fun name =>
                (Token.between? openerKind source word.stop stop).map
                  fun mark =>
                    { stop := some stop, queue := queue ++ [name, mark], memo }
            else
              some { stop := none, queue, memo }

/-- Apply a rule at an offset of a source and push its tokens onto a queue. -/
def Rule.push (rule : Rule) (source : Text) (offset : Nat)
    (queue : List Token) (memo : WordMemo) : Option Applied :=
  (Text.drop? offset source).bind fun rest =>
    if rule.excludes rest then
      some { stop := none, queue, memo }
    else
      rule.matcher.push source offset rest queue memo

section Pushing

variable {left rest : Text} {memo : WordMemo}

theorem Applied.whole_eq (kind : Kind) (count : Nat) (queue : List Token) :
    whole kind (left ++ rest) (Text.size left)
        (Text.size left + Text.size (rest.take count)) queue memo =
      some ((Outcome.of (Text.size left)
        (Match.single? kind (rest.take count))).appendTo queue memo) := by
  have token := Token.between?_take_start kind left rest count
  rw [whole, token]
  cases rest.take count with
  | nil => simp [Match.single?, Outcome.of, Outcome.appendTo]
  | cons character others =>
      have positive := Text.size_pos (List.cons_ne_nil character others)
      rw [if_pos (Nat.lt_add_of_pos_right positive)]
      simp [Match.single?, Outcome.of, Outcome.appendTo, Match.text,
        Match.lexemes]

/-- The pieces of a match are pushed, unless the match is empty. -/
theorem Matcher.push_groups {engine : Engine} {run : Run}
    (found : engine.find? rest = some run) (expression : Text)
    (kinds : List Kind) (queue : List Token) :
    (pattern expression engine (.groups kinds)).push (left ++ rest)
        (Text.size left) rest queue memo =
      some ((Outcome.of (Text.size left)
        ((Emission.groups kinds).cut rest run)).appendTo queue memo) := by
  have fits := engine.fits found
  have texts := Emission.texts_pieces run (kinds.getLast?.getD .error)
    (fun _ _ => fits.stop_le) kinds 1 0 rest (Nat.zero_le _)
  have pushed := Emission.pushGroups_eq left fits
    (kinds.getLast?.getD .error) kinds 1 0 (Nat.zero_le _) queue
  rw [List.take_zero, Text.size_nil, Nat.add_zero, List.drop_zero] at pushed
  rw [Nat.sub_zero] at texts
  have solid := Emission.pieces_solid run (kinds.getLast?.getD .error)
    (fun _ _ => fits.stop_le) kinds 1 0 rest
    (by rw [Nat.zero_add]; exact fits.taken_le)
  simp only [push, found, Emission.cut, Outcome.of_ofLexemes?, pushed,
    Nat.add_eq_left, Text.size_eq_zero_iff, Option.map_some]
  rw [← texts]
  cases pieces : Emission.pieces run (kinds.getLast?.getD .error) kinds 1 0 rest
    with
  | nil => simp [Outcome.appendTo]
  | cons first others =>
      rw [pieces, List.forall_mem_cons] at solid
      simp [Outcome.appendTo, solid.1]

/--
A word is cut out of the source where the memo says that it ends, and so is the
character behind it.
-/
theorem Matcher.push_head (opener : Char) (nameKind openerKind : Kind)
    (starts : rest.head?.any isWordStart = true)
    (sound : memo.Sound (left ++ rest)) (queue : List Token) :
    (head opener nameKind openerKind).push (left ++ rest) (Text.size left) rest
        queue memo =
      some ((Outcome.of (Text.size left)
        ((head opener nameKind openerKind).recognise rest)).appendTo queue
          (memo.lookup (Text.size left) rest).2) := by
  rcases sound.lookup starts with ⟨word, memo', lookup, stop, _, _⟩
  have parts : left ++ rest =
      left ++ rest.takeWhile isWord ++ rest.dropWhile isWord := by
    rw [List.append_assoc, List.takeWhile_append_dropWhile]
  have stop : word.stop = Text.size (left ++ rest.takeWhile isWord) := by
    rw [stop, Text.size_append]
    rfl
  simp only [push, lookup, recognise, starts, true_and]
  rw [stop, parts, Text.drop?_size_append, Option.bind_some]
  split
  · rename_i next
    rcases List.head?_eq_some_iff.1 next with ⟨others, behind⟩
    have name := Token.between?_append nameKind left (rest.takeWhile isWord)
      (rest.dropWhile isWord)
    have mark := Token.between?_append openerKind
      (left ++ rest.takeWhile isWord) [opener] others
    rw [List.append_assoc _ [opener], List.singleton_append, ← behind] at mark
    rw [Text.size_cons, Text.size_nil, Nat.add_zero] at mark
    rw [Text.size_append, name, Option.bind_some, ← Text.size_append, mark]
    simp [Outcome.of, Outcome.appendTo, Match.text, Match.lexemes,
      Nat.add_assoc]
  · simp [Outcome.of, Outcome.appendTo]

theorem Rule.push_size_append (rule : Rule)
    (sound : memo.Sound (left ++ rest)) (queue : List Token) :
    rule.push (left ++ rest) (Text.size left) queue memo =
      some ((Outcome.of (Text.size left)
        (rule.match? (Text.size left) rest memo).1).appendTo queue
          (rule.match? (Text.size left) rest memo).2) := by
  have nothing (memo : WordMemo) :
      some ({ stop := none, queue, memo } : Applied) =
        some ((Outcome.of (Text.size left) none).appendTo queue memo) := by
    simp [Outcome.of, Outcome.appendTo]
  have found := (rule.match?_fst sound).1
  rw [found, recognise]
  rw [push, Text.drop?_size_append, Option.bind_some]
  unfold match?
  split
  · exact nothing memo
  · cases rule.matcher with
    | pattern expression engine emission =>
        cases finds : engine.find? rest with
        | none =>
            simp only [Matcher.push, Matcher.recognise, finds, Option.bind_none]
            exact nothing memo
        | some run =>
            simp only [Matcher.recognise, finds, Option.bind_some]
            cases emission with
            | one kind =>
                simp only [Matcher.push, finds]
                exact Applied.whole_eq kind run.taken queue
            | groups kinds => exact Matcher.push_groups finds expression kinds queue
    | scanner form kind => exact Applied.whole_eq kind (form.count rest) queue
    | head opener nameKind openerKind =>
        cases starts : rest.head?.any isWordStart with
        | false =>
            have noWord := memo.lookup_of_not_start (Text.size left) starts
            simp only [Matcher.push, Matcher.recognise, noWord, starts,
              Bool.false_eq_true, false_and, if_false]
            exact nothing memo
        | true =>
            rw [Matcher.push_head opener nameKind openerKind starts sound]
            rcases memo.lookup (Text.size left) rest with ⟨word, memo'⟩
            cases word with
            | none => rfl
            | some word =>
                simp only
                split <;> rfl

end Pushing

namespace Rule

theorem apply_eq_none_iff (rule : Rule) (source : Text) (offset : Nat)
    (memo : WordMemo) :
    (rule.apply source offset memo).1 = none ↔
      Text.drop? offset source = none := by
  cases place : Text.drop? offset source <;> simp [apply, matchAt?, place]

/-- With a sound memo a rule pushes the tokens of its outcome. -/
theorem push_eq (rule : Rule) {source : Text} {memo : WordMemo}
    (sound : memo.Sound source) (offset : Nat) (queue : List Token) :
    rule.push source offset queue memo =
      (rule.apply source offset memo).1.map fun outcome =>
        outcome.appendTo queue (rule.apply source offset memo).2 := by
  cases place : Text.drop? offset source with
  | none =>
      rw [apply_of_no_place rule place, push, place]
      rfl
  | some rest =>
      rcases (Text.drop?_eq_some_iff offset source rest).1 place with
        ⟨left, rfl, rfl⟩
      rw [rule.push_size_append sound, apply, matchAt?,
        Text.drop?_size_append]
      rfl

/-- A pattern with groups gives its lexemes the kinds of the groups in order. -/
theorem kinds_sublist_of_recognise {rule : Rule} {expression rest : Text}
    {engine : Engine} {kinds : List Kind} {found : Match}
    (matcher : rule.matcher = .pattern expression engine (.groups kinds))
    (finds : rule.recognise rest = some found) :
    (found.lexemes.map Lexeme.kind).Sublist
      (kinds ++ [kinds.getLast?.getD .error]) := by
  rw [recognise, matcher] at finds
  split at finds
  · cases finds
  · rcases Option.bind_eq_some_iff.1 finds with ⟨run, _, cut⟩
    rw [Match.lexemes_of_ofLexemes? cut]
    exact Emission.kinds_pieces_sublist _ _ _ _ _ _

/-- The tokens of a match tile the source from its place to where it ends. -/
theorem tiles_of_recognise {rule : Rule} {rest : Text} {found : Match}
    (finds : rule.recognise rest = some found) (left : Text) :
    ∃ covered,
      Text.take? (Text.size left + Text.size found.text) (left ++ rest) =
        some covered ∧
      Tiles covered (Text.size left)
        (Token.layout (Text.size left) found.lexemes) := by
  have covers := covers_of_recognise finds
  rcases covers.begins with ⟨others, rfl⟩
  refine ⟨left ++ found.text, ?_, Tiles.layout left _ covers.solid⟩
  rw [← Text.size_append, ← List.append_assoc, Text.take?_size_append]

/--
Whatever rules have been applied to a source before, and wherever, a rule is
applied as a whole or not at all.  There is no result exactly where the offset
is no place of the source.  Otherwise either the queue stays as it was, or the
match ends at a place farther on, and to the queue are appended tokens, at
least one and none of them empty, that tile the source between the two places.
The tokens of a pattern with groups have kinds of the groups in their order, and
at most one more has the last of them.
-/
theorem push_whole_or_nothing (rule : Rule) (source : Text)
    (calls : List Call) (queue : List Token) (offset : Nat) :
    let memo := (Call.answers source calls {}).2
    (rule.push source offset queue memo = none ↔
        ¬ Text.IsPlace offset source) ∧
      ∀ applied, rule.push source offset queue memo = some applied →
        (applied.stop = none ∧ applied.queue = queue) ∨
          ∃ stop tokens covered,
            applied.stop = some stop ∧ applied.queue = queue ++ tokens ∧
            offset < stop ∧ stop ≤ Text.size source ∧
            Text.take? stop source = some covered ∧
            tokens ≠ [] ∧ Tiles covered offset tokens ∧
            ∀ expression engine kinds,
              rule.matcher = .pattern expression engine (.groups kinds) →
              (tokens.map fun token => token.kind).Sublist
                (kinds ++ [kinds.getLast?.getD .error]) := by
  intro memo
  have sound : memo.Sound source := Call.sound_answers source calls
  constructor
  · rw [push_eq rule sound, Option.map_eq_none_iff, ← Text.drop?_eq_none_iff,
      apply_eq_none_iff]
  · intro applied pushed
    cases place : Text.drop? offset source with
    | none =>
        rw [push, place] at pushed
        cases pushed
    | some rest =>
        rcases (Text.drop?_eq_some_iff offset source rest).1 place with
          ⟨left, rfl, rfl⟩
        rw [rule.push_size_append sound, (rule.match?_fst sound).1] at pushed
        cases finds : rule.recognise rest with
        | none =>
            rw [finds] at pushed
            cases pushed
            exact .inl ⟨rfl, List.append_nil queue⟩
        | some found =>
            rw [finds] at pushed
            cases pushed
            have covers := covers_of_recognise finds
            rcases tiles_of_recognise finds left with ⟨covered, taken, tiles⟩
            refine .inr ⟨_, _, covered, rfl, rfl, ?_, ?_, taken, nofun, tiles,
              ?_⟩
            · exact Nat.lt_add_of_pos_right (Text.size_pos covers.text_ne_nil)
            · rw [Text.size_append]
              exact Nat.add_le_add_left
                (Text.size_le_of_prefix covers.begins) _
            · intro expression engine kinds matcher
              have kindsOf := kinds_sublist_of_recognise matcher finds
              rw [← Token.map_toLexeme_layout (Text.size left) found.lexemes,
                List.map_map] at kindsOf
              exact kindsOf

/--
A group in a group and one that takes no part: what the groups leave of the
match gets the last kind.  Inside of a character there is no result.
-/
theorem push_whole_or_nothing_nested :
    let source := "éabd".toList
    let queue := [Token.mk ⟨.operator, "é".toList⟩ 0]
    let kinds := [Kind.identifier, .typeName, .keyword]
    let tokens :=
      [Token.mk ⟨.identifier, "ab".toList⟩ 2, ⟨⟨.keyword, "d".toList⟩, 4⟩]
    ∃ rule expression engine,
      Rule.pattern "nested" "(a(b))(c)?d".toList (.groups kinds) = .ok rule ∧
      rule.matcher = .pattern expression engine (.groups kinds) ∧
      ¬ Text.IsPlace 1 source ∧ rule.push source 1 queue {} = none ∧
      rule.push source 2 queue {} =
        some { stop := some 5, queue := queue ++ tokens, memo := {} } ∧
      Text.take? 5 source = some source ∧ Tiles source 2 tokens ∧
      (tokens.map fun token => token.kind).Sublist (kinds ++ [.keyword]) := by
  intro source queue kinds tokens
  let regex : Regex :=
    .seq (.assertion .textStart)
      (.seq (.group 1 (.seq (.one (.single 'a')) (.group 2 (.one (.single 'b')))))
        (.seq (.iterate (.group 3 (.one (.single 'c'))) ⟨0, some 1, true⟩)
          (.one (.single 'd'))))
  let rule : Rule :=
    { name := "nested"
      matcher :=
        .pattern (anchor "(a(b))(c)?d".toList) regex.engine (.groups kinds) }
  have parsed : Regex.parse? (anchor "(a(b))(c)?d".toList) = some regex := by
    decide +kernel
  have made : pattern "nested" "(a(b))(c)?d".toList (.groups kinds) =
      .ok rule :=
    pattern_eq_ok parsed (by rintro _ ⟨⟩; rfl) _
  have inside : ¬ Text.IsPlace 1 source := by
    rw [← Text.drop?_eq_none_iff]
    decide +kernel
  have pushed : rule.push source 2 queue {} =
      some { stop := some 5, queue := queue ++ tokens, memo := {} } := by
    decide +kernel
  rcases push_whole_or_nothing rule source [] queue 1 with ⟨refused, _⟩
  rcases (push_whole_or_nothing rule source [] queue 2).2 _ pushed with
    impossible | ⟨stop, others, covered, stops, appended, _, _, taken, _, tiles,
      kindsOf⟩
  · cases impossible.1
  · cases stops
    cases List.append_cancel_left appended
    cases taken
    exact ⟨rule, _, _, made, rfl, inside, refused.2 inside, pushed,
      rfl, tiles, kindsOf _ _ kinds rfl⟩

end Rule

end BayesLex
