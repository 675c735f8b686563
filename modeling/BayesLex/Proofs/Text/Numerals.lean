import BayesLex.Text.Basic

/-!
# Numerals

A number is written by its digits in some base, and read again from them.
-/

namespace BayesLex.Text

/-- A digit of a numeral is one below the base. -/
theorem exists_digit_of_mem_toDigits {base number : Nat} (large : 1 < base)
    {digit : Char} (member : digit ∈ Nat.toDigits base number) :
    ∃ value < base, digit = value.digitChar := by
  induction number using Nat.strongRecOn with
  | ind number hypothesis =>
      rw [Nat.toDigits_eq_if large] at member
      split at member
      · rename_i small
        exact ⟨number, small, List.mem_singleton.1 member⟩
      · rename_i more
        rcases List.mem_append.1 member with before | last
        · have positive : 0 < number := by omega
          exact hypothesis (number / base) (Nat.div_lt_self positive large)
            before
        · exact ⟨number % base, Nat.mod_lt _ (by omega),
            List.mem_singleton.1 last⟩

/-- No digit of a hexadecimal numeral is another character. -/
theorem not_mem_toDigits_sixteen {character : Char}
    (other : ∀ value < 16, character ≠ Nat.digitChar value) (number : Nat) :
    character ∉ Nat.toDigits 16 number := by
  intro member
  rcases exists_digit_of_mem_toDigits (by decide) member with
    ⟨value, small, same⟩
  exact other value small same

/-- The value of a hexadecimal digit. -/
def hexDigitValue (digit : Char) : Nat :=
  if digit.isDigit then digit.toNat - 48 else digit.toNat - 87

/-- The number that hexadecimal digits write. -/
def hexValue (digits : Text) : Nat :=
  digits.foldl (fun total digit => 16 * total + hexDigitValue digit) 0

theorem hexDigitValue_digitChar :
    ∀ value < 16, hexDigitValue (Nat.digitChar value) = value := by
  decide

theorem hexValue_toDigits (number : Nat) :
    hexValue (Nat.toDigits 16 number) = number := by
  induction number using Nat.strongRecOn with
  | ind number hypothesis =>
      rw [Nat.toDigits_eq_if (by decide)]
      split
      · rename_i small
        show 16 * 0 + hexDigitValue (Nat.digitChar number) = number
        rw [hexDigitValue_digitChar number small, Nat.mul_zero, Nat.zero_add]
      · have before := hypothesis (number / 16) (by omega)
        unfold hexValue at before ⊢
        rw [List.foldl_append, before, List.foldl_cons, List.foldl_nil,
          hexDigitValue_digitChar _ (Nat.mod_lt _ (by decide)),
          Nat.div_add_mod]

theorem isDigit_of_mem_ofNat {number : Nat} {digit : Char}
    (member : digit ∈ ofNat number) : digit.isDigit = true :=
  Nat.isDigit_of_mem_toDigits (by decide) (by decide) member

theorem ofNat_injective {left right : Nat} (same : ofNat left = ofNat right) :
    left = right := by
  calc
    left = Nat.ofDigitChars 10 (ofNat left) 0 :=
      Nat.ofDigitChars_ten_toDigits.symm
    _ = Nat.ofDigitChars 10 (ofNat right) 0 := by rw [same]
    _ = right := Nat.ofDigitChars_ten_toDigits

end BayesLex.Text
