import BayesLex.Proofs.Text.Slices
import BayesLex.WordMemo

/-!
# The word memo carries no meaning

A memo is sound for a source when each of its words has been measured at a
place of that source, and the word it answers with is the latest of them.
Looking up a word through a sound memo gives the end that measuring it anew
gives: inside a word that has been measured every character is a word character,
so an identifier that begins there ends where the word ends.
-/

namespace BayesLex

/-- A word that has been measured at a place of a source. -/
def Word.MeasuredIn (word : Word) (source : Text) : Prop :=
  ∃ left right, source = left ++ right ∧
    word = Word.measure (Text.size left) right

/-- A memo that tells what has been measured in a source. -/
structure WordMemo.Sound (memo : WordMemo) (source : Text) : Prop where
  words : ∀ word ∈ memo.words, word.MeasuredIn source
  latest : memo.latest = memo.words.head?

/-- The code points of the characters that may begin an identifier. -/
theorem isWordStart_iff (character : Char) :
    isWordStart character = true ↔
      (65 ≤ character.toNat ∧ character.toNat ≤ 90) ∨
        (97 ≤ character.toNat ∧ character.toNat ≤ 122) ∨
        character.toNat = 95 := by
  change ((decide ('A'.val ≤ character.val ∧ character.val ≤ 'Z'.val) ||
    (decide ('a'.val ≤ character.val) && decide (character.val ≤ 'z'.val))) ||
    decide (character = '_')) = true ↔ _
  simp only [Bool.or_eq_true, Bool.and_eq_true, decide_eq_true_eq,
    UInt32.le_iff_toNat_le, Char.toNat_val, ← Char.toNat_inj,
    Char.reduceToNat, or_assoc]

theorem isWord_of_isWordStart {character : Char}
    (starts : isWordStart character = true) : isWord character = true := by
  have small : ∀ code < 123, (65 ≤ code ∧ code ≤ 90) ∨
      (97 ≤ code ∧ code ≤ 122) ∨ code = 95 →
      wordRanges.contains code = true := by
    decide
  have code := (isWordStart_iff character).1 starts
  exact small character.toNat (by omega) code

namespace Word

@[simp]
theorem next_measure (offset : Nat) (rest : Text) :
    (measure offset rest).next = (rest.dropWhile isWord).head? := rfl

/-- The word at a place inside a word ends where that word ends. -/
theorem measure_append (offset : Nat) (left right : Text)
    (inside : ∀ character ∈ left, isWord character = true) :
    (measure offset (left ++ right)).stop =
        (measure (offset + Text.size left) right).stop ∧
      (measure offset (left ++ right)).next =
        (measure (offset + Text.size left) right).next := by
  simp only [measure]
  rw [List.takeWhile_append_of_pos inside, List.dropWhile_append_of_pos inside,
    Text.size_append, Nat.add_assoc]
  exact ⟨rfl, rfl⟩

/-- A word that covers a place ends like the word that begins at the place. -/
theorem MeasuredIn.of_covers {word : Word} {left rest : Text}
    (measured : word.MeasuredIn (left ++ rest))
    (covers : word.covers (Text.size left) = true) :
    word.stop = (measure (Text.size left) rest).stop ∧
      word.next = (measure (Text.size left) rest).next := by
  rcases measured with ⟨before, after, equal, rfl⟩
  simp only [Word.covers, Bool.and_eq_true, decide_eq_true_eq] at covers
  rcases covers with ⟨starts, stops⟩
  simp only [measure] at starts stops
  rcases Text.append_eq_append_of_size_le equal.symm starts
    with ⟨middle, rfl, rfl⟩
  have parts : middle ++ rest =
      (middle ++ rest).takeWhile isWord ++ (middle ++ rest).dropWhile isWord :=
    List.takeWhile_append_dropWhile.symm
  obtain ⟨others, word, _⟩ :=
    Text.append_eq_append_of_size_le parts (by
      rw [Text.size_append] at stops
      omega)
  have inside : ∀ character ∈ middle, isWord character = true := by
    intro character member
    have begins : character ∈ (middle ++ rest).takeWhile isWord := by
      rw [word]
      exact List.mem_append_left others member
    exact List.all_eq_true.1 List.all_takeWhile character begins
  rw [Text.size_append]
  exact measure_append (Text.size before) middle rest inside

end Word

namespace WordMemo

theorem sound_empty (source : Text) : Sound {} source where
  words := nofun
  latest := rfl

theorem Sound.remember {memo : WordMemo} {left rest : Text}
    (sound : memo.Sound (left ++ rest)) :
    (memo.remember (Word.measure (Text.size left) rest)).Sound
      (left ++ rest) where
  words := List.forall_mem_cons.2 ⟨⟨left, rest, rfl, rfl⟩, sound.words⟩
  latest := rfl

theorem Sound.of_covering? {memo : WordMemo} {left rest : Text} {word : Word}
    (sound : memo.Sound (left ++ rest))
    (covering : memo.covering? (Text.size left) = some word) :
    word.stop = (Word.measure (Text.size left) rest).stop ∧
      word.next = (Word.measure (Text.size left) rest).next := by
  rcases Option.filter_eq_some_iff.1 covering with ⟨latest, covers⟩
  rw [sound.latest] at latest
  exact (sound.words word (List.mem_of_head? latest)).of_covers covers

/-- A place where no identifier begins has no word, and the memo stays. -/
theorem lookup_of_not_start (memo : WordMemo) (offset : Nat) {rest : Text}
    (noStart : rest.head?.any isWordStart = false) :
    memo.lookup offset rest = (none, memo) := by
  simp [lookup, noStart]

/--
Where an identifier begins, a sound memo tells the end and the next character
that measuring tells, and it stays sound.
-/
theorem Sound.lookup {memo : WordMemo} {left rest : Text}
    (sound : memo.Sound (left ++ rest))
    (starts : rest.head?.any isWordStart = true) :
    ∃ word memo', memo.lookup (Text.size left) rest = (some word, memo') ∧
      word.stop = (Word.measure (Text.size left) rest).stop ∧
      word.next = (Word.measure (Text.size left) rest).next ∧
      memo'.Sound (left ++ rest) := by
  simp only [WordMemo.lookup, starts, if_true]
  cases covering : memo.covering? (Text.size left) with
  | some word =>
      rcases sound.of_covering? covering with ⟨stop, next⟩
      exact ⟨word, memo, rfl, stop, next, sound⟩
  | none => exact ⟨_, _, rfl, rfl, rfl, sound.remember⟩

end WordMemo

end BayesLex
