import BayesLex.Text.Ranges

/-!
# Ranges in UTF-8

The encodings of the characters in a range of code points are described by
byte patterns: one range of bytes for each byte of a character.  A range that
is not made of whole blocks of code points needs several patterns.
-/

namespace BayesLex.Utf8

/-- The encodings that have a byte of each range in its place. -/
abbrev BytePattern := List (Nat × Nat)

/-- Code points whose characters take the same number of bytes. -/
structure Block where
  first : Nat
  last : Nat
  /-- The first byte of an encoding without any bits of the code point. -/
  lead : Nat
  /-- The number of bytes behind the first one. -/
  following : Nat
  deriving DecidableEq

/-- The code points of all characters. -/
def blocks : List Block :=
  [⟨0, 0x7F, 0, 0⟩, ⟨0x80, 0x7FF, 0xC0, 1⟩, ⟨0x800, 0xD7FF, 0xE0, 2⟩,
    ⟨0xE000, 0xFFFF, 0xE0, 2⟩, ⟨0x10000, 0x10FFFF, 0xF0, 3⟩]

/--
The patterns of the numbers from `first` to `last` in base 64.  The leading
digit is added to `lead`, and each of the `following` digits to 0x80.
-/
def patterns (lead : Nat) : Nat → Nat → Nat → List BytePattern
  | 0, first, last => [[(lead + first, lead + last)]]
  | following + 1, first, last =>
      let unit := Nat.pow 64 (following + 1)
      let below (digit start stop : Nat) :=
        (patterns 0x80 following start stop).map
          ((lead + digit, lead + digit) :: ·)
      let low := first / unit
      let high := last / unit
      if low = high then
        below low (first % unit) (last % unit)
      else
        let cutLow := first % unit ≠ 0
        let cutHigh := last % unit ≠ unit - 1
        let start := if cutLow then low + 1 else low
        let stop := if cutHigh then high else high + 1
        (if cutLow then below low (first % unit) (unit - 1) else []) ++
          (if start < stop then
            [(lead + start, lead + stop - 1) ::
              List.replicate (following + 1) (0x80, 0xBF)]
          else
            []) ++
          (if cutHigh then below high 0 (last % unit) else [])

/-- The patterns of the characters in a range. -/
def ofRange (range : Nat × Nat) : List BytePattern :=
  blocks.flatMap fun block =>
    let first := max range.1 block.first
    let last := min range.2 block.last
    if first ≤ last then
      patterns block.lead block.following first last
    else
      []

/-- The bytes of a character. -/
def ofCode (code : Nat) : List Nat :=
  (ofRange (code, code)).flatten.map Prod.fst

/-- What is left of some patterns behind each of their first ranges. -/
def behind (patterns : List BytePattern) : List (List BytePattern) :=
  (patterns.splitBy fun pattern next => pattern.head? == next.head?).map
    fun patterns => patterns.map List.tail

/--
What can be left of some patterns before the last byte, each counted once,
when at most `length` bytes are still to come.
-/
def endings : (length : Nat) → List (List BytePattern) → List (List BytePattern)
  | 0, _ => []
  | length + 1, left =>
      let going := left.filter (· ≠ [[]])
      (going ++ endings length (going.flatMap behind)).eraseDups

/-- The number of beginnings of a list of patterns, each counted once. -/
def beginnings : BytePattern → List BytePattern → Nat
  | _, [] => 0
  | previous, pattern :: rest =>
      pattern.length - shared previous pattern + beginnings pattern rest
where
  /-- The length of the common beginning of two patterns. -/
  shared : BytePattern → BytePattern → Nat
    | first :: rest, first' :: rest' =>
        if first = first' then shared rest rest' + 1 else 0
    | _, _ => 0

end BayesLex.Utf8
