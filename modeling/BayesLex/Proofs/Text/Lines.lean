import BayesLex.Text.Basic

/-!
# Lines of a text

Line feeds cut a text into lines: one more than there are line feeds.
-/

namespace BayesLex.Text

theorem length_splitOn (separator : Char) (text : Text) :
    (text.splitOn separator).length = text.count separator + 1 := by
  induction text with
  | nil => rfl
  | cons character rest hypothesis =>
      rw [List.splitOn_cons_eq_if_modifyHead, List.count_cons]
      split
      · rw [List.length_cons, hypothesis]
      · rw [List.length_modifyHead, hypothesis, Nat.add_zero]

/-- The first line of a text goes up to its first line feed. -/
theorem splitOn_zero (separator : Char) (text : Text) :
    (text.splitOn separator)[0]? =
      some (text.takeWhile fun character => character != separator) := by
  induction text with
  | nil => rfl
  | cons character rest hypothesis =>
      rw [List.splitOn_cons_eq_if_modifyHead]
      split
      · rename_i same
        rw [List.takeWhile_cons_of_neg (by simpa using same)]
        rfl
      · rename_i other
        rw [List.takeWhile_cons_of_pos (by simpa using other),
          List.getElem?_modifyHead_zero, hypothesis]
        rfl

/-- A character of the first line stands behind those before it. -/
theorem splitOn_zero_bind {left : Text} (line : '\n' ∉ left)
    {character : Char} (other : character ≠ '\n') (right : Text) :
    ((left ++ character :: right).splitOn '\n')[0]?.bind
        (fun content => content[left.length]?) = some character := by
  have inside : ∀ other ∈ left, (other != '\n') = true := by
    intro other member
    rw [bne_iff_ne]
    rintro rfl
    exact line member
  rw [splitOn_zero, Option.bind_some, List.takeWhile_append_of_pos inside,
    List.takeWhile_cons_of_pos (by simpa using other),
    List.getElem?_append_right (Nat.le_refl _), Nat.sub_self]
  rfl

/-- A text is a line, or ends with one behind a line feed. -/
theorem exists_lastLine (text : Text) :
    '\n' ∉ text ∨
      ∃ front last, text = front ++ '\n' :: last ∧ '\n' ∉ last := by
  induction text with
  | nil => exact .inl List.not_mem_nil
  | cons character rest hypothesis =>
      rcases hypothesis with line | ⟨front, last, rfl, line⟩
      · by_cases newline : character = '\n'
        · subst newline
          exact .inr ⟨[], rest, rfl, line⟩
        · left
          rw [List.mem_cons, not_or]
          exact ⟨Ne.symm newline, line⟩
      · exact .inr ⟨character :: front, last, rfl, line⟩

end BayesLex.Text
