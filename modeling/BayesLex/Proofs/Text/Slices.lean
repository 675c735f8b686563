import BayesLex.Text.Basic

/-!
# Slices of a text

A byte offset is a place of a text when it falls between two characters, at
the beginning or at the end.  `Text.slice?` cuts a text at two byte offsets
and is defined only when both are places, in the right order; `Text.insert?`
puts a character at a place.

The places of a text are the sizes of its beginnings, so that two ways to
split a text are compared by comparing offsets.
-/

namespace BayesLex.Text

/-- What lies before a byte offset, if the offset falls between two characters. -/
def take? (offset : Nat) : Text → Option Text
  | [] => if offset = 0 then some [] else none
  | character :: rest =>
      if offset = 0 then
        some []
      else if character.utf8Size ≤ offset then
        (take? (offset - character.utf8Size) rest).map (character :: ·)
      else
        none

/--
The text between two byte offsets.  There is none when they are in the wrong
order or when one of them is not a place of the text.
-/
def slice? (start stop : Nat) (text : Text) : Option Text :=
  if start ≤ stop then
    (drop? start text).bind (take? (stop - start))
  else
    none

@[simp]
theorem take?_size_append (left right : Text) :
    take? (size left) (left ++ right) = some left := by
  induction left with
  | nil => cases right <;> rfl
  | cons character rest hypothesis =>
      have positive := character.utf8Size_pos
      simp only [List.cons_append, size_cons, take?]
      rw [if_neg (by omega), if_pos (by omega), Nat.add_sub_cancel_left,
        hypothesis]
      rfl

/-- The middle one of three parts is the slice between their borders. -/
theorem slice?_append (left middle right : Text) :
    slice? (size left) (size left + size middle) (left ++ middle ++ right) =
      some middle := by
  have ordered : size left ≤ size left + size middle := Nat.le_add_right _ _
  rw [slice?, if_pos ordered, List.append_assoc, drop?_size_append,
    Option.bind_some, Nat.add_sub_cancel_left, take?_size_append]

/-- The character at a byte offset, if there is one. -/
def characterAt? (offset : Nat) (text : Text) : Option Char :=
  (drop? offset text).bind List.head?

/-- Put a character at a byte offset, if the offset falls between two others. -/
def insert? (offset : Nat) (character : Char) (text : Text) : Option Text :=
  (take? offset text).bind fun left =>
    (drop? offset text).map fun right => left ++ character :: right

theorem insert?_size_append (left right : Text) (character : Char) :
    insert? (size left) character (left ++ right) =
      some (left ++ character :: right) := by
  rw [insert?, take?_size_append, drop?_size_append]
  rfl

theorem splitFrom_size_append (taken left right : Text) :
    splitFrom (size left) taken (left ++ right) =
      (taken.reverse ++ left, right) := by
  induction left generalizing taken with
  | nil =>
      cases right with
      | nil => simp [splitFrom]
      | cons character rest =>
          have positive := character.utf8Size_pos
          simp only [size_nil, List.nil_append, splitFrom, List.append_nil]
          rw [if_neg (by omega)]
  | cons character rest hypothesis =>
      simp only [List.cons_append, size_cons, splitFrom]
      rw [if_pos (by omega), Nat.add_sub_cancel_left, hypothesis]
      simp

/-- A beginning is split off by its size. -/
theorem split_size_append (left right : Text) :
    split (size left) (left ++ right) = (left, right) := by
  rw [split, splitFrom_size_append, List.reverse_nil, List.nil_append]

theorem size_eq_zero_iff (text : Text) : size text = 0 ↔ text = [] := by
  cases text with
  | nil => simp
  | cons character rest =>
      have positive := character.utf8Size_pos
      simp only [size_cons, reduceCtorEq, iff_false]
      omega

theorem size_pos {text : Text} (solid : text ≠ []) : 0 < size text :=
  Nat.pos_of_ne_zero fun empty => solid ((size_eq_zero_iff text).1 empty)

/-- What follows a place is what is left behind a beginning of that size. -/
theorem drop?_eq_some_iff (offset : Nat) (text rest : Text) :
    drop? offset text = some rest ↔
      ∃ left, text = left ++ rest ∧ size left = offset := by
  constructor
  · intro found
    induction text generalizing offset with
    | nil =>
        simp only [drop?, Option.ite_none_right_eq_some,
          Option.some.injEq] at found
        rcases found with ⟨rfl, rfl⟩
        exact ⟨[], rfl, rfl⟩
    | cons character others hypothesis =>
        simp only [drop?] at found
        split at found
        · rename_i atStart
          cases found
          exact ⟨[], rfl, atStart.symm⟩
        · split at found
          · rcases hypothesis _ found with ⟨left, rfl, sized⟩
            refine ⟨character :: left, rfl, ?_⟩
            rw [size_cons]
            omega
          · cases found
  · rintro ⟨left, rfl, rfl⟩
    exact drop?_size_append left rest

/--
A byte offset that falls between two characters of a text, at its beginning or
at its end.
-/
def IsPlace (offset : Nat) (text : Text) : Prop :=
  ∃ left right, text = left ++ right ∧ size left = offset

theorem isPlace_size_append (left right : Text) :
    IsPlace (size left) (left ++ right) :=
  ⟨left, right, rfl, rfl⟩

/-- Something follows exactly the places of a text. -/
theorem drop?_eq_none_iff (offset : Nat) (text : Text) :
    drop? offset text = none ↔ ¬ IsPlace offset text := by
  rw [Option.eq_none_iff_forall_ne_some]
  constructor
  · rintro nothing ⟨left, right, rfl, rfl⟩
    exact nothing right (drop?_size_append left right)
  · intro noPlace rest found
    rcases (drop?_eq_some_iff offset text rest).1 found with
      ⟨left, split, sized⟩
    exact noPlace ⟨left, rest, split, sized⟩

/-- Of two beginnings of a text the smaller one begins the greater one. -/
theorem append_eq_append_of_size_le {left right left' right' : Text}
    (equal : left ++ right = left' ++ right')
    (smaller : size left ≤ size left') :
    ∃ middle, left' = left ++ middle ∧ right = middle ++ right' := by
  rcases List.append_eq_append_iff.1 equal with
    ⟨middle, leftEqual, rightEqual⟩ | ⟨middle, leftEqual, rightEqual⟩
  · exact ⟨middle, leftEqual, rightEqual⟩
  · have sized : size left = size left' + size middle := by
      rw [leftEqual, size_append]
    have empty : middle = [] := (size_eq_zero_iff middle).1 (by omega)
    subst empty
    exact ⟨[], by simpa using leftEqual.symm, by simpa using rightEqual.symm⟩

end BayesLex.Text
