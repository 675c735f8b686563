import BayesLex.Text.Basic

/-!
# Numbers and dates of a TOML document

Numbers and dates are words without quotation marks.  Only whether a word has
the right form matters here: digits may be separated by single underscores, a
decimal number has no needless zero in front, an integer fits into 128 bits
and a float is not too large for a double, and a date exists in the calendar.
-/

namespace BayesLex.Toml.Scalar

/-- The value of a digit up to a base of sixteen. -/
def digit? (base : Nat) (character : Char) : Option Nat :=
  let value :=
    if character.isDigit then
      character.toNat - '0'.toNat
    else if 'a' ≤ character ∧ character ≤ 'f' then
      character.toNat - 'a'.toNat + 10
    else if 'A' ≤ character ∧ character ≤ 'F' then
      character.toNat - 'A'.toNat + 10
    else
      base
  if value < base then some value else none

/--
The number that digits of a base spell behind those read already.  An
underscore may stand between two digits; `fresh` tells that a digit must
follow.
-/
def digitsFrom (base : Nat) : Bool → Nat → Text → Option Nat
  | fresh, value, [] => if fresh then none else some value
  | fresh, value, character :: rest =>
      if character = '_' then
        if fresh then none else digitsFrom base true value rest
      else
        (digit? base character).bind fun digit =>
          digitsFrom base false (value * base + digit) rest

/-- The number that digits of a base spell. -/
def digits? (base : Nat) (text : Text) : Option Nat :=
  digitsFrom base true 0 text

/-- A sign, and what follows it. -/
def unsigned : Text → Bool × Text
  | '-' :: rest => (true, rest)
  | '+' :: rest => (false, rest)
  | text => (false, text)

/-- A decimal number without a needless zero in front. -/
def decimal? : Text → Option Nat
  | '0' :: _ :: _ => none
  | text => digits? 10 text

/-- The integer that a word spells. -/
def integer? : Text → Option Int
  | '0' :: 'x' :: rest => (digits? 16 rest).map Int.ofNat
  | '0' :: 'o' :: rest => (digits? 8 rest).map Int.ofNat
  | '0' :: 'b' :: rest => (digits? 2 rest).map Int.ofNat
  | text =>
      let (negative, rest) := unsigned text
      (decimal? rest).map fun value =>
        if negative then -(value : Int) else value

/-- Whether a word is an integer that fits into 128 bits. -/
def isInteger (text : Text) : Bool :=
  (integer? text).any fun value =>
    if value < 0 then
      value.natAbs ≤ Nat.pow 2 127
    else
      value.natAbs < Nat.pow 2 128

/-- The least number that is too large for a double. -/
def tooLarge : Nat :=
  Nat.pow 2 1024 - Nat.pow 2 970

/-- Whether `mantissa` times ten to `exponent` fits into a double. -/
def fits (mantissa : Nat) (exponent : Int) : Bool :=
  let places := (Nat.toDigits 10 mantissa).length + exponent
  mantissa = 0 || places < 300 ||
    (places < 320 &&
      mantissa * Nat.pow 10 exponent.toNat <
        tooLarge * Nat.pow 10 (-exponent).toNat)

/-- The exponent of a float, behind its mark. -/
def exponent? : Text → Option Int
  | [] => some 0
  | _ :: text =>
      let (negative, rest) := unsigned text
      (digits? 10 rest).map fun value =>
        if negative then -(value : Int) else value

/-- Whether a character marks the exponent of a float. -/
def marksExponent (character : Char) : Bool :=
  character = 'e' || character = 'E'

/-- Whether a word is a float. -/
def isFloat (text : Text) : Bool :=
  let (_, rest) := unsigned text
  if rest = "inf".toList || rest = "nan".toList then
    true
  else
    let number := rest.takeWhile (fun character => !marksExponent character)
    let power := rest.dropWhile (fun character => !marksExponent character)
    let whole := number.takeWhile (· ≠ '.')
    match number.dropWhile (· ≠ '.') with
    | [] =>
        !power.isEmpty &&
          ((decimal? whole).bind fun value =>
            (exponent? power).map fun exponent => fits value exponent).getD false
    | _ :: fraction =>
        ((decimal? whole).bind fun value =>
          (digits? 10 fraction).bind fun part =>
            (exponent? power).map fun exponent =>
              let count := fraction.countP (· ≠ '_')
              fits (value * Nat.pow 10 count + part) (exponent - count)).getD false

/-- A number of exactly `count` digits at the beginning of a text. -/
def fixed? (count : Nat) (text : Text) : Option (Nat × Text) :=
  let digits := text.take count
  if digits.length = count && digits.all Char.isDigit then
    some (Nat.ofDigitChars 10 digits 0, text.drop count)
  else
    none

/-- The number of days of a month. -/
def daysOf (year month : Nat) : Nat :=
  if month = 2 then
    if year % 4 = 0 ∧ (year % 100 ≠ 0 ∨ year % 400 = 0) then 29 else 28
  else if month = 4 ∨ month = 6 ∨ month = 9 ∨ month = 11 then
    30
  else
    31

/-- What follows a character. -/
def after? (character : Char) : Text → Option Text
  | [] => none
  | first :: rest => if first = character then some rest else none

/-- What follows a date. -/
def date? (text : Text) : Option Text := do
  let (year, text) ← fixed? 4 text
  let (month, text) ← fixed? 2 (← after? '-' text)
  let (day, text) ← fixed? 2 (← after? '-' text)
  if 1 ≤ month ∧ month ≤ 12 ∧ 1 ≤ day ∧ day ≤ daysOf year month then
    some text
  else
    none

/-- What follows a fraction of a second, if one is there. -/
def fraction? : Text → Option Text
  | '.' :: text =>
      if text.head?.any Char.isDigit then
        some (text.dropWhile Char.isDigit)
      else
        none
  | text => some text

/-- What follows seconds, if any are there. -/
def seconds? : Text → Option Text
  | ':' :: text => do
      let (second, text) ← fixed? 2 text
      if second ≤ 60 then fraction? text else none
  | text => some text

/-- What follows a time of day. -/
def time? (text : Text) : Option Text := do
  let (hour, text) ← fixed? 2 text
  let (minute, text) ← fixed? 2 (← after? ':' text)
  if hour ≤ 23 ∧ minute ≤ 59 then seconds? text else none

/-- Whether a text is an offset from universal time, or nothing. -/
def isOffset : Text → Bool
  | [] | ['Z'] | ['z'] => true
  | sign :: text =>
      (sign = '+' || sign = '-') &&
        ((do
          let (hour, text) ← fixed? 2 text
          let (minute, text) ← fixed? 2 (← after? ':' text)
          some (hour ≤ 23 && minute ≤ 59 && text.isEmpty) : Option Bool).getD
            false)

/-- Whether a word is a date. -/
def isDate (text : Text) : Bool :=
  date? text = some []

/-- Whether a word is a date, a time of day, or both. -/
def isMoment (text : Text) : Bool :=
  match date? text with
  | some [] => true
  | some (separator :: rest) =>
      (separator = 'T' || separator = 't' || separator = ' ') &&
        (time? rest).any isOffset
  | none => time? text = some []

end BayesLex.Toml.Scalar
