import BayesLex.Proofs.Scanner
import BayesLex.Proofs.Text.Bytes

/-!
# Where comments end

A comment ends behind the nearest closing word: a line comment behind a line feed,
a block comment behind a star and a slash that are no part of its opening pair.  A
comment that is not closed goes on to the end of the text.

Words are looked for in the bytes of the text (`EndsBehind`), at every offset, also
inside of a character.  The scanners pass one character after the other, and the
main statement is that they come to the least of all those offsets.
-/

namespace BayesLex

namespace Text

variable {word : Text} {start stop : Nat} {text : Text}

/--
The bytes of a text up to an offset end with those of a word, which stands behind
the first `start` bytes.
-/
def EndsBehind (start : Nat) (word text : Text) (stop : Nat) : Prop :=
  start + size word ≤ stop ∧ stop ≤ size text ∧
    bytes word <:+ (bytes text).take stop

/-- The least offset of some kind, or the greatest of all if there is none. -/
def IsNearest (ends : Nat → Prop) (greatest stop : Nat) : Prop :=
  (ends stop ∧ ∀ offset < stop, ¬ ends offset) ∨
    (∀ offset, ¬ ends offset) ∧ stop = greatest

/-- A word of single bytes ends only where it stands between two characters. -/
theorem endsBehind_iff (ascii : IsAscii word) (solid : word ≠ []) :
    EndsBehind start word text stop ↔
      ∃ left right, text = left ++ word ++ right ∧ start ≤ size left ∧
        stop = size (left ++ word) := by
  constructor
  · rintro ⟨behind, inside, before, split⟩
    have sized := congrArg List.length split
    rw [List.length_append, List.length_take, length_bytes, length_bytes,
      Nat.min_eq_left inside] at sized
    have stands : bytes word <+: (bytes text).drop before.length := by
      rw [← List.take_append_drop stop (bytes text), ← split,
        List.append_assoc, List.drop_left]
      exact List.prefix_append _ _
    rcases (prefix_drop_bytes_iff ascii solid _ _).1 stands with
      ⟨left, right, rfl, place⟩
    refine ⟨left, right, rfl, ?_, ?_⟩
    · omega
    · rw [size_append]
      omega
  · rintro ⟨left, right, rfl, behind, rfl⟩
    refine ⟨?_, ?_, ?_⟩
    · rw [size_append]
      omega
    · rw [size_append (left ++ word)]
      omega
    · rw [bytes_append, ← length_bytes, List.take_left, bytes_append]
      exact List.suffix_append _ _

/-- A word that ends behind a beginning of a text ends in what follows it. -/
theorem EndsBehind.exists_append {opener rest : Text} (ascii : IsAscii word)
    (solid : word ≠ [])
    (ends : EndsBehind (size opener) word (opener ++ rest) stop) :
    ∃ middle right, rest = middle ++ word ++ right ∧
      stop = size (opener ++ middle ++ word) := by
  rcases (endsBehind_iff ascii solid).1 ends with
    ⟨left, right, split, behind, stops⟩
  rw [List.append_assoc] at split
  rcases append_eq_append_of_size_le split behind with ⟨middle, rfl, rfl⟩
  exact ⟨middle, right, (List.append_assoc _ _ _).symm, stops⟩

/-- A word that does not stand at a place ends no earlier than behind the next. -/
theorem endsBehind_skip {opener rest : Text} {character : Char}
    (ascii : IsAscii word) (solid : word ≠ [])
    (other : ¬ word <+: character :: rest) (stop : Nat) :
    EndsBehind (size opener) word (opener ++ character :: rest) stop ↔
      EndsBehind (size (opener ++ [character])) word
        (opener ++ character :: rest) stop := by
  constructor
  · intro ends
    rcases ends.exists_append ascii solid with ⟨middle, right, split, rfl⟩
    cases middle with
    | nil => exact absurd ⟨right, split.symm⟩ other
    | cons first middle =>
        rcases List.cons.inj split with ⟨rfl, _⟩
        refine ⟨?_, ends.2⟩
        simp only [size_append, size_cons, size_nil]
        omega
  · rintro ⟨behind, inside⟩
    rw [size_append] at behind
    exact ⟨by omega, inside⟩

/--
The number of characters up to the first end of a word, or of all characters
where it stands nowhere.
-/
inductive FirstEnd (word : Text) : Text → Nat → Prop
  | nil : FirstEnd word [] 0
  | here (rest : Text) : FirstEnd word (word ++ rest) word.length
  | skip {character : Char} {rest : Text} {length : Nat}
      (other : ¬ word <+: character :: rest) :
      FirstEnd word rest length → FirstEnd word (character :: rest) (length + 1)

/-- The first end behind a beginning of a text is the nearest one. -/
theorem FirstEnd.isNearest {rest : Text} {length : Nat} (ascii : IsAscii word)
    (solid : word ≠ []) (found : FirstEnd word rest length) (opener : Text) :
    IsNearest (EndsBehind (size opener) word (opener ++ rest))
      (size (opener ++ rest)) (size (opener ++ rest.take length)) := by
  induction found generalizing opener with
  | nil =>
      refine .inr ⟨?_, by rw [List.take_nil]⟩
      intro offset ends
      rcases ends.exists_append ascii solid with ⟨middle, right, split, _⟩
      simp [solid] at split
  | here rest =>
      rw [List.take_left]
      refine .inl ⟨?_, ?_⟩
      · exact (endsBehind_iff ascii solid).2
          ⟨opener, rest, (List.append_assoc _ _ _).symm, Nat.le_refl _, rfl⟩
      · rintro offset before ⟨behind, _⟩
        rw [size_append] at before
        omega
  | @skip character rest length other _ hypothesis =>
      have later := hypothesis (opener ++ [character])
      rw [List.append_assoc, List.append_assoc, List.singleton_append,
        List.singleton_append] at later
      have same : EndsBehind (size opener) word (opener ++ character :: rest) =
          EndsBehind (size (opener ++ [character])) word
            (opener ++ character :: rest) :=
        funext fun stop => propext (endsBehind_skip ascii solid other stop)
      rw [List.take_succ_cons, same]
      exact later

end Text

namespace Scanner

open Text

/-- A line comment is counted on to the first line feed. -/
theorem exists_lineEnd (count : Nat) (text : Text) :
    ∃ length, FirstEnd ['\n'] text length ∧
      lineEnd count text = count + length := by
  fun_induction lineEnd count text with
  | case1 => exact ⟨0, .nil, rfl⟩
  | case2 count rest => exact ⟨1, .here rest, rfl⟩
  | case3 count character rest newline hypothesis =>
      rcases hypothesis with ⟨length, first, counted⟩
      refine ⟨length + 1, .skip ?_ first, by omega⟩
      rintro ⟨behind, split⟩
      cases split
      exact newline rfl

/-- A block comment is counted on to the first pair that closes it. -/
theorem exists_blockEnd (count : Nat) (text : Text) :
    ∃ length, FirstEnd ['*', '/'] text length ∧
      blockEnd count text = count + length := by
  fun_induction blockEnd count text with
  | case1 => exact ⟨0, .nil, rfl⟩
  | case2 count rest => exact ⟨2, .here rest, rfl⟩
  | case3 count character rest closes hypothesis =>
      rcases hypothesis with ⟨length, first, counted⟩
      refine ⟨length + 1, .skip ?_ first, by omega⟩
      rintro ⟨behind, split⟩
      cases split
      exact closes behind rfl rfl

theorem isNearest_lineComment (rest : Text) :
    let text := '/' :: '/' :: rest
    IsNearest (EndsBehind 0 ['\n'] text) (size text)
      (size (lineComment.scan text)) := by
  rcases exists_lineEnd 2 rest with ⟨length, first, counted⟩
  have ascii : IsAscii ['\n'] := by simp [IsAscii]
  have whole : FirstEnd ['\n'] ('/' :: '/' :: rest) (length + 1 + 1) :=
    .skip (by simp [List.cons_prefix_cons])
      (.skip (by simp [List.cons_prefix_cons]) first)
  have nearest := whole.isNearest ascii (List.cons_ne_nil _ _) []
  intro text
  have scanned : lineComment.scan text = text.take (length + 1 + 1) := by
    rw [scan, count, counted, Nat.add_comm 2]
  rw [scanned]
  exact nearest

theorem isNearest_blockComment (rest : Text) :
    let text := '/' :: '*' :: rest
    IsNearest (EndsBehind 2 ['*', '/'] text) (size text)
      (size (blockComment.scan text)) := by
  rcases exists_blockEnd 2 rest with ⟨length, first, counted⟩
  have ascii : IsAscii ['*', '/'] := by simp [IsAscii]
  have nearest := first.isNearest ascii (List.cons_ne_nil _ _) ['/', '*']
  intro text
  have scanned : blockComment.scan text = text.take (length + 1 + 1) := by
    rw [scan, count, counted, Nat.add_comm 2]
  rw [scanned]
  exact nearest

/-- Nothing is recognised exactly where the opening pair does not stand. -/
theorem size_scan_eq_zero_iff {scanner : Scanner} {opener : Text}
    (solid : opener ≠ [])
    (opened : ∀ {text}, opener <+: text → opener.length ≤ scanner.count text)
    (closed : ∀ {text}, ¬ opener <+: text → scanner.scan text = [])
    (text : Text) : size (scanner.scan text) = 0 ↔ ¬ opener <+: text := by
  rw [size_eq_zero_iff]
  refine ⟨?_, closed⟩
  intro nothing begins
  have stands := prefix_scan begins (opened begins)
  rw [nothing] at stands
  exact solid (List.prefix_nil.1 stands)

/-- What is recognised ends at a place of the text. -/
theorem isPlace_size_scan (scanner : Scanner) (text : Text) :
    IsPlace (size (scanner.scan text)) text := by
  have place := isPlace_size_append (scanner.scan text)
    (text.drop (scanner.count text))
  rwa [scan, List.take_append_drop] at place

/--
Comments end where they should.  None begins without its opening pair.  Behind it,
a block comment ends with the nearest star and slash that follow the opening pair,
and a line comment with the nearest line feed; where none follows, it ends with
the text.  What a scanner recognises ends between two characters, and no farther
than the text.
-/
theorem comments_end_nearest :
    (∀ text, size (blockComment.scan text) = 0 ↔ ¬ ['/', '*'] <+: text) ∧
      (∀ rest, let text := '/' :: '*' :: rest
        IsNearest (EndsBehind 2 ['*', '/'] text) (size text)
          (size (blockComment.scan text))) ∧
      (∀ text, size (lineComment.scan text) = 0 ↔ ¬ ['/', '/'] <+: text) ∧
      (∀ rest, let text := '/' :: '/' :: rest
        IsNearest (EndsBehind 0 ['\n'] text) (size text)
          (size (lineComment.scan text))) ∧
      ∀ (scanner : Scanner) text, IsPlace (size (scanner.scan text)) text ∧
        size (scanner.scan text) ≤ size text := by
  refine ⟨?_, isNearest_blockComment, ?_, isNearest_lineComment, ?_⟩
  · exact size_scan_eq_zero_iff (List.cons_ne_nil _ _)
      two_le_count_blockComment scan_blockComment_of_not
  · exact size_scan_eq_zero_iff (List.cons_ne_nil _ _)
      two_le_count_lineComment scan_lineComment_of_not
  · intro scanner text
    have place := scanner.isPlace_size_scan text
    rcases place with ⟨left, right, rfl, sized⟩
    refine ⟨⟨left, right, rfl, sized⟩, ?_⟩
    rw [← sized, size_append]
    exact Nat.le_add_right _ _

-- The star of the opening pair closes nothing, and the next one does, behind a
-- character of two bytes.
example : size (blockComment.scan "/*/é*/ */".toList) = 7 := by
  decide

end Scanner

end BayesLex
