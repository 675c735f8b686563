import BayesLex.Proofs.Scanner
import BayesLex.Proofs.Text.Slices

/-!
# Where a string literal ends

A backslash escapes the character behind it unless it is escaped itself, so
whether a character is escaped depends on everything before it
(`Scanner.isEscaped`).  A character that is not escaped is bare.

The scanner passes a backslash together with the next character and keeps no
account of what is escaped.  The main statement is that it stops, nevertheless,
behind the first bare quotation mark or before the first bare line feed,
whichever comes first, and otherwise at the end of the text.  So a text that is
quoted by escaping what would end it makes one literal, whatever follows.
-/

namespace BayesLex.Scanner

/--
Whether the character at an index behind the opening mark is escaped: directly
before it stands a backslash that is not escaped.
-/
def isEscaped (body : Text) : Nat → Bool
  | 0 => false
  | index + 1 => body[index]? == some '\\' && !isEscaped body index

/-- Whether a character stands at an index and is not escaped there. -/
def isBare (character : Char) (body : Text) (index : Nat) : Bool :=
  body[index]? == some character && !isEscaped body index

/-- The index of the first bare one among the characters of one sort. -/
def firstBare? (character : Char) (body : Text) : Option Nat :=
  (List.range body.length).find? (isBare character body)

/-- The number of bytes of the literal with `body` behind its opening mark. -/
def literalSize (body : Text) : Nat :=
  match firstBare? '"' body, firstBare? '\n' body with
  | none, none => Text.size ('"' :: body)
  | none, some newline => Text.size ('"' :: body.take newline)
  | some quote, none => Text.size ('"' :: body.take quote) + 1
  | some quote, some newline =>
      if quote < newline then
        Text.size ('"' :: body.take quote) + 1
      else
        Text.size ('"' :: body.take newline)

/-- A backslash before each character that would not stand for itself. -/
def escape (content : Text) : Text :=
  content.flatMap fun character =>
    if character ∈ ['"', '\\', '\n'] then ['\\', character] else [character]

/-- A string literal for a text. -/
def quote (content : Text) : Text :=
  '"' :: escape content ++ ['"']

section Escapes

theorem isEscaped_append {body : Text} {index : Nat}
    (inside : index ≤ body.length) (rest : Text) :
    isEscaped (body ++ rest) index = isEscaped body index := by
  induction index with
  | zero => rfl
  | succ index hypothesis =>
      rw [isEscaped, isEscaped, List.getElem?_append_left inside,
        hypothesis (Nat.le_of_succ_le inside)]

/-- What is escaped does not depend on a pair before it. -/
theorem isEscaped_pair (escaped : Char) (rest : Text) (index : Nat) :
    isEscaped ('\\' :: escaped :: rest) (index + 2) = isEscaped rest index := by
  induction index with
  | zero => simp [isEscaped]
  | succ index hypothesis =>
      rw [isEscaped, hypothesis, isEscaped]
      rfl

/-- What is escaped does not depend on a character before it that is plain. -/
theorem isEscaped_plain {character : Char} (plain : character ≠ '\\')
    (rest : Text) (index : Nat) :
    isEscaped (character :: rest) (index + 1) = isEscaped rest index := by
  induction index with
  | zero => simp [isEscaped, plain]
  | succ index hypothesis =>
      rw [isEscaped, hypothesis, isEscaped]
      rfl

/-- Behind what is enclosed nothing is escaped by it. -/
theorem isEscaped_length {body : Text} (enclosed : Enclosed body) :
    isEscaped body body.length = false := by
  induction enclosed with
  | nil => rfl
  | escape escaped _ hypothesis =>
      exact (isEscaped_pair escaped _ _).trans hypothesis
  | plain free _ hypothesis =>
      have plain := (not_or.1 (mt List.mem_cons.2 free)).1
      exact (isEscaped_plain plain _ _).trans hypothesis

/-- Where an enclosed character would end the literal, it is escaped. -/
theorem isBare_of_enclosed {body : Text} (enclosed : Enclosed body)
    {stop : Char} (stops : stop ∈ ['"', '\n']) (index : Nat) :
    isBare stop body index = false := by
  induction enclosed generalizing index with
  | nil => rfl
  | escape escaped _ hypothesis =>
      match index with
      | 0 =>
          have other : '\\' ≠ stop := by
            rintro rfl
            simp at stops
          simp [isBare, other]
      | 1 => simp [isBare, isEscaped]
      | index + 2 =>
          have behind := hypothesis index
          rw [isBare, ← isEscaped_pair escaped] at behind
          exact behind
  | @plain character rest free _ hypothesis =>
      match index with
      | 0 =>
          have other : character ≠ stop := by
            rintro rfl
            exact free (List.mem_cons_of_mem _ stops)
          simp [isBare, other]
      | index + 1 =>
          have plain := (not_or.1 (mt List.mem_cons.2 free)).1
          have behind := hypothesis index
          rw [isBare, ← isEscaped_plain plain] at behind
          exact behind

end Escapes

section FirstBare

variable {body : Text} {stop : Char}

/-- Up to the end of what is enclosed no character would end the literal. -/
theorem isBare_append_of_lt (enclosed : Enclosed body)
    (stops : stop ∈ ['"', '\n']) {index : Nat} (inside : index < body.length)
    (rest : Text) : isBare stop (body ++ rest) index = false := by
  rw [isBare, List.getElem?_append_left inside,
    isEscaped_append (Nat.le_of_lt inside)]
  exact isBare_of_enclosed enclosed stops index

/-- The first character behind what is enclosed is bare. -/
theorem isBare_length (enclosed : Enclosed body) (rest : Text) :
    isBare stop (body ++ rest) body.length = (rest.head? == some stop) := by
  rw [isBare, List.getElem?_append_right (Nat.le_refl _), Nat.sub_self,
    isEscaped_append (Nat.le_refl _), isEscaped_length enclosed,
    List.head?_eq_getElem?]
  exact Bool.and_true _

theorem firstBare?_of_stop (enclosed : Enclosed body)
    (stops : stop ∈ ['"', '\n']) (more : Text) :
    firstBare? stop (body ++ stop :: more) = some body.length := by
  rw [firstBare?, List.find?_range_eq_some]
  refine ⟨?_, ?_, ?_⟩
  · simp [isBare_length enclosed]
  · simp
  · intro index before
    rw [isBare_append_of_lt enclosed stops before]
    rfl

/-- Where the first character behind is another one, the stop comes later. -/
theorem lt_of_firstBare? (enclosed : Enclosed body)
    (stops : stop ∈ ['"', '\n']) {rest : Text}
    (other : rest.head? ≠ some stop) {index : Nat}
    (found : firstBare? stop (body ++ rest) = some index) :
    body.length < index := by
  have bare := (List.find?_range_eq_some.1 found).1
  rcases Nat.lt_trichotomy index body.length with before | rfl | behind
  · rw [isBare_append_of_lt enclosed stops before] at bare
    cases bare
  · rw [isBare_length enclosed, beq_iff_eq] at bare
    exact absurd bare other
  · exact behind

/-- At the end of a text, or before a last backslash, nothing else is bare. -/
theorem firstBare?_eq_none (enclosed : Enclosed body)
    (stops : stop ∈ ['"', '\n']) {rest : Text}
    (short : rest.length ≤ 1) (other : rest.head? ≠ some stop) :
    firstBare? stop (body ++ rest) = none := by
  rw [Option.eq_none_iff_forall_ne_some]
  intro index found
  have behind := lt_of_firstBare? enclosed stops other found
  have inside := List.mem_range.1 (List.find?_range_eq_some.1 found).2.1
  rw [List.length_append] at inside
  omega

end FirstBare

section Literals

variable {body : Text}

/-- What is enclosed is passed, and then it matters what follows. -/
theorem scan_string_enclosed (enclosed : Enclosed body) {rest : Text}
    {length : Nat} (ends : ∀ count, stringEnd count rest = count + length) :
    string.scan ('"' :: (body ++ rest)) =
      '"' :: (body ++ rest.take length) := by
  have counted : string.count ('"' :: (body ++ rest)) =
      body.length + length + 1 := by
    change stringEnd 1 (body ++ rest) = _
    rw [stringEnd_enclosed enclosed, ends]
    omega
  rw [scan, counted, List.take_succ_cons, List.take_length_add_append]

theorem literalSize_of_end (enclosed : Enclosed body) {rest : Text}
    (last : rest = [] ∨ rest = ['\\']) :
    literalSize (body ++ rest) = Text.size ('"' :: (body ++ rest)) := by
  have nothing (stop : Char) (stops : stop ∈ ['"', '\n']) :
      firstBare? stop (body ++ rest) = none := by
    apply firstBare?_eq_none enclosed stops
    · rcases last with rfl | rfl <;> decide
    · intro begins
      rcases last with rfl | rfl
      · cases begins
      · cases begins
        simp at stops
  simp only [literalSize, nothing '"' (by decide), nothing '\n' (by decide)]

theorem literalSize_of_quote (enclosed : Enclosed body) (more : Text) :
    literalSize (body ++ '"' :: more) = Text.size ('"' :: body) + 1 := by
  have quote : firstBare? '"' (body ++ '"' :: more) = some body.length :=
    firstBare?_of_stop enclosed (by decide) more
  cases found : firstBare? '\n' (body ++ '"' :: more) with
  | none => simp only [literalSize, quote, found, List.take_left]
  | some newline =>
      have behind := lt_of_firstBare? enclosed (by decide) (by simp) found
      simp only [literalSize, quote, found, if_pos behind, List.take_left]

theorem literalSize_of_newline (enclosed : Enclosed body) (more : Text) :
    literalSize (body ++ '\n' :: more) = Text.size ('"' :: body) := by
  have newline : firstBare? '\n' (body ++ '\n' :: more) = some body.length :=
    firstBare?_of_stop enclosed (by decide) more
  cases found : firstBare? '"' (body ++ '\n' :: more) with
  | none => simp only [literalSize, newline, found, List.take_left]
  | some quote =>
      have behind := lt_of_firstBare? enclosed (by decide) (by simp) found
      simp only [literalSize, newline, found, if_neg (Nat.lt_asymm behind),
        List.take_left]

/-- Behind its opening mark a literal is as long as the bare characters tell. -/
theorem size_scan_string (text : Text) :
    Text.size (string.scan ('"' :: text)) = literalSize text := by
  rcases exists_enclosed text with
    ⟨body, rest, enclosed, rfl, rfl | rfl | ⟨more, rfl | rfl⟩⟩
  · have ends : ∀ count, stringEnd count [] = count + 0 := fun _ => rfl
    rw [scan_string_enclosed enclosed ends,
      literalSize_of_end enclosed (.inl rfl), List.take_zero]
  · have ends : ∀ count, stringEnd count ['\\'] = count + 1 := fun _ => rfl
    rw [scan_string_enclosed enclosed ends,
      literalSize_of_end enclosed (.inr rfl), List.take_succ_cons,
      List.take_zero]
  · have ends : ∀ count, stringEnd count ('"' :: more) = count + 1 :=
      fun _ => rfl
    rw [scan_string_enclosed enclosed ends, literalSize_of_quote enclosed,
      List.take_succ_cons, List.take_zero, ← List.cons_append,
      Text.size_append]
    rfl
  · have ends : ∀ count, stringEnd count ('\n' :: more) = count + 0 :=
      fun _ => rfl
    rw [scan_string_enclosed enclosed ends, literalSize_of_newline enclosed,
      List.take_zero, List.append_nil]

/-- Nothing is recognised exactly where no opening mark stands. -/
theorem size_scan_string_eq_zero_iff (text : Text) :
    Text.size (string.scan text) = 0 ↔ text.head? ≠ some '"' := by
  rw [Text.size_eq_zero_iff]
  cases text with
  | nil => simp [scan]
  | cons character rest =>
      by_cases opens : character = '"'
      · subst opens
        have solid := scan_ne_nil (List.cons_ne_nil '"' rest)
          (count_string_pos rest)
        simp [solid]
      · simp [scan_string_of_ne opens, opens]

/-- An escaped text is enclosed, whatever it is. -/
theorem enclosed_escape (content : Text) : Enclosed (escape content) := by
  induction content with
  | nil => exact .nil
  | cons character content hypothesis =>
      rw [escape, List.flatMap_cons]
      split
      · exact .escape character hypothesis
      · rename_i free
        refine .plain ?_ hypothesis
        simpa [and_left_comm] using free

theorem scan_string_quote (content rest : Text) :
    string.scan (quote content ++ rest) = quote content := by
  have counted := count_string_closed (enclosed_escape content) rest
  rw [scan, quote, counted, List.take_left]

/--
A string literal ends where it should.  None begins without an opening mark.
Behind the mark it goes on behind the first bare mark if that comes before any
bare line feed, and otherwise up to the first bare line feed, or to the end of
the text if there is none.  So what is quoted is one literal, whatever follows.
-/
theorem string_ends_at_first_bare :
    (∀ text, Text.size (string.scan text) = 0 ↔ text.head? ≠ some '"') ∧
      (∀ body, Text.size (string.scan ('"' :: body)) = literalSize body) ∧
      ∀ content rest, Text.size (string.scan (quote content ++ rest)) =
        Text.size (quote content) :=
  ⟨size_scan_string_eq_zero_iff, size_scan_string,
    fun content rest => congrArg Text.size (scan_string_quote content rest)⟩

-- The second backslash is escaped, so that it does not escape the mark behind it,
-- and the third one escapes a character of two bytes.
example : literalSize "\\\\\\é\"\"".toList = 7 := by
  decide +kernel

end Literals

end BayesLex.Scanner
